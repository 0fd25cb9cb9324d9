/-
  MaterialSearch.Proofs.Query.Reversal
  ────────────────────────────────
  **THE SAME SEARCH IN THE OTHER DIRECTION.**

  The search terms do not say in which direction the results are sorted; the
  signs of the page numbers do.  So take two queries that differ in the
  direction alone, and two servers of which the second has under every number
  what the first has under the opposite one.  Whatever is done to both, the
  second asks for the opposite pages, stores them under the opposite numbers
  and looks records up where the first does: nothing that is read shows the
  direction, but for the addresses and page numbers in errors.

  Main definitions:
    * `Slot.reverse`, `PageCache.reverse` — the same under opposite numbers
    * `Action.reverse`, `Outcome.reverse` — the same with opposite numbers
    * `Outcome.unaddressed` — an answer without the address that it names
    * `Transport.Reverses`  — the second server has the opposite pages
    * `Search.Opposes`, `Family.Opposes` — all that differs is the direction

  Main results:
    * `locate_reverse`, `key_reverse` — slots and keys in the other direction
    * `recordAt_opposes`, `next_opposes`, `perform_opposes` — one operation
    * `run_opposes`         — whole runs
    * `direction_mirrors`   — **the direction only mirrors page numbers**
-/
import MaterialSearch.Proofs.Query.Assembly
import MaterialSearch.Proofs.Query.Independence
import MaterialSearch.Proofs.Query.Lifecycle

namespace MaterialSearch

open Keyword Numeric

/-! ## §1. Opposite directions and opposite numbers. -/

/-- The other direction. -/
def Keyword.Direction.reverse : Direction → Direction
  | .ascending => .descending
  | .descending => .ascending

/-- The same keyword to sort by, in the other direction. -/
def Keyword.Sorting.reverse (o : Sorting) : Sorting := { o with direction := o.direction.reverse }

/-- The same terms, in the other direction. -/
def Matchbook.reverse (m : Matchbook) : Matchbook := { m with direction := m.direction.reverse }

/-- The same place on the page of the opposite number. -/
def Slot.reverse (s : Slot) : Slot := { s with page := -s.page }

/-- The same pages under the opposite numbers. -/
def PageCache.reverse (c : PageCache) : PageCache :=
  { c with pages := c.pages.map fun m => (-m.1, m.2) }

section Numbers

theorem sign_reverse (d : Direction) : d.reverse.sign = -d.sign := by
  cases d <;> rfl

theorem sign_ne_minValue (d : Direction) : d.sign ≠ Int64.minValue := by
  cases d <;> decide

/-- The least number has no opposite in 64 bits and stands for itself, so
that no number of a page changes with the sign. -/
theorem natAbs_neg (p : Int64) : (-p).toInt.natAbs = p.toInt.natAbs := by
  have hge := Int64.le_toInt p
  have hlt := Int64.toInt_lt p
  rw [Int64.toInt_neg, Int.bmod_def]
  split <;> omega

theorem locate_reverse (position k : UInt64) (d : Direction) :
    Slot.locate position k d.reverse = (Slot.locate position k d).reverse := by
  show Slot.mk ((position / max k 1 + 1).toInt64 * d.reverse.sign) (position % max k 1) = _
  rw [sign_reverse, Int64.mul_neg]
  rfl

theorem rank_reverse (slot : Slot) (k : UInt64) : slot.reverse.rank k = slot.rank k := by
  unfold Slot.rank Slot.reverse
  rw [natAbs_neg]

/-- **A record has the same key in both directions.** -/
theorem key_reverse (slot : Slot) (k N : UInt64) : slot.reverse.key k N = slot.key k N :=
  congrArg (recordKey · N) (rank_reverse slot k)

/-- No position of up to `2^63 - 1` records lies on the page of the least number. -/
theorem locate_ne_minValue {d : Direction} {position k : UInt64} (hk : 0 < k.toNat)
    (h : position.toNat + 1 < 2 ^ 63) : (Slot.locate position k d).page ≠ Int64.minValue := by
  have hdiv : position.toNat / k.toNat ≤ position.toNat := Nat.div_le_self _ _
  intro hmin
  -- That page would be the one of number `2^63`, which has more records before it.
  have habs : (d.page (position.toNat / k.toNat + 1)).toInt.natAbs
      = position.toNat / k.toNat + 1 := page_natAbs d (by omega)
  rw [← locate_page d hk (by omega), hmin, Int64.toInt_minValue] at habs
  omega

theorem lookup_reverse {α : Type} (pages : List (Int64 × α)) (p : Int64) :
    (pages.map fun m => (-m.1, m.2)).lookup (-p) = pages.lookup p := by
  induction pages with
  | nil => rfl
  | cons m pages ih =>
      have hkey : (-p == -m.1) = (p == m.1) := by
        rw [Bool.eq_iff_iff, beq_iff_eq, beq_iff_eq, Int64.neg_inj]
      rw [List.map_cons, List.lookup_cons, List.lookup_cons, hkey, ih]

theorem page?_reverse (c : PageCache) (p : Int64) : c.reverse.page? (-p) = c.page? p :=
  lookup_reverse c.pages p

theorem contains_reverse (c : PageCache) (p : Int64) :
    c.reverse.contains (-p) = c.contains p :=
  congrArg Option.isSome (page?_reverse c p)

theorem size_reverse (c : PageCache) : c.reverse.size = c.size := List.length_map _

theorem put_reverse (p : Int64) (body : Page) (pages : List (Int64 × Page)) :
    Assoc.put (-p) body (pages.map fun m => (-m.1, m.2))
      = (Assoc.put p body pages).map fun m => (-m.1, m.2) := by
  induction pages with
  | nil => rfl
  | cons m pages ih =>
      simp only [List.map_cons, Assoc.put, Int64.neg_inj]
      by_cases hkey : m.1 = p
      · rw [if_pos hkey, if_pos hkey]
        rfl
      · rw [if_neg hkey, if_neg hkey, ih]
        rfl

end Numbers

/-! ## §2. The same answers. -/

/-- An error without the address that it names. -/
def FetchError.unaddressed : FetchError → FetchError
  | .transport _ reason => .transport "" reason
  | .status _ code body => .status "" code body
  | .notJson _ body => .notJson "" body
  | .notObject _ body => .notObject "" body
  | .noCount _ firstKey => .noCount "" firstKey

/-- An error without the address that it names. -/
def QueryError.unaddressed : QueryError → QueryError
  | .fetch cause => .fetch cause.unaddressed
  | e => e

/-- The same error on the page of the opposite number. -/
def QueryError.reverse : QueryError → QueryError
  | .missingRecord key page => .missingRecord key (-page)
  | e => e

/-- An answer without the address that it names. -/
def Outcome.unaddressed : Outcome → Outcome
  | .failed cause => .failed cause.unaddressed
  | .url _ => .url ""
  | outcome => outcome

/-- The same answer in the other direction. -/
def Outcome.reverse : Outcome → Outcome
  | .failed cause => .failed cause.reverse
  | .book m => .book m.reverse
  | outcome => outcome

/-- The same action on the page of the opposite number. -/
def Action.reverse : Action → Action
  | .pageUrl page => .pageUrl (-page)
  | .fetchPage page => .fetchPage (-page)
  | .insertPage page body => .insertPage (-page) body
  | a => a

/-- **An action that can be done in both directions**: the terms stay as they
are, and the page has an opposite number. -/
def Action.Reversible : Action → Prop
  | .edit _ => False
  | .pageUrl page => page ≠ Int64.minValue
  | .fetchPage page => page ≠ Int64.minValue
  | .insertPage page _ => page ≠ Int64.minValue
  | _ => True

instance : DecidablePred Action.Reversible
  | .edit _ => inferInstanceAs (Decidable False)
  | .pageUrl page => inferInstanceAs (Decidable (page ≠ Int64.minValue))
  | .fetchPage page => inferInstanceAs (Decidable (page ≠ Int64.minValue))
  | .insertPage page _ => inferInstanceAs (Decidable (page ≠ Int64.minValue))
  | .finalize | .length | .isEmpty | .next | .get _ | .slice _ _ _ | .rewind =>
      inferInstanceAs (Decidable True)

/-- **Two results of the same operation in both directions**: values that
belong together, or one error up to its address and the sign of its page. -/
inductive Corresponds {α β : Type} (R : α → β → Prop) :
    Except QueryError α → Except QueryError β → Prop
  | ok {a : α} {b : β} (h : R a b) : Corresponds R (.ok a) (.ok b)
  | error {e e' : QueryError} (h : e'.unaddressed = e.reverse.unaddressed) :
      Corresponds R (.error e) (.error e')

section Answers

variable {α β : Type} {R : α → β → Prop} {r : Except QueryError α} {r' : Except QueryError β}
  {e e' : FetchError}

theorem Corresponds.fetch (h : e'.unaddressed = e.unaddressed) :
    Corresponds R (.error (.fetch e)) (.error (.fetch e')) :=
  .error (congrArg QueryError.fetch h)

theorem Corresponds.outcome_eq {answer : α → Outcome} {answer' : β → Outcome}
    (h : Corresponds R r r')
    (hok : ∀ a b, R a b → (answer' b).unaddressed = (answer a).reverse.unaddressed) :
    (Outcome.ofResult answer' r').unaddressed
      = (Outcome.ofResult answer r).reverse.unaddressed := by
  cases h with
  | ok h => exact hok _ _ h
  | error h => exact congrArg Outcome.failed h

/-- What the body of a response tells does not depend on its address, unless
it is an error. -/
theorem read_unaddressed (url url' body : String) :
    (Page.read url' body).mapError FetchError.unaddressed
      = (Page.read url body).mapError FetchError.unaddressed := by
  unfold Page.read
  split <;> rfl

theorem total_unaddressed (body : Page) (url url' : String) :
    (body.total url').mapError FetchError.unaddressed
      = (body.total url).mapError FetchError.unaddressed := by
  unfold Page.total
  cases body with
  | nil => rfl
  | cons first rest =>
      dsimp only
      split <;> rfl

/-- Two results that are the same up to the addresses in errors. -/
theorem mapError_cases {x x' : Except FetchError α}
    (h : x'.mapError FetchError.unaddressed = x.mapError FetchError.unaddressed) :
    (∃ a, x = .ok a ∧ x' = .ok a)
      ∨ ∃ e e', x = .error e ∧ x' = .error e' ∧ e'.unaddressed = e.unaddressed := by
  cases x with
  | ok a =>
      cases x' with
      | ok b => exact .inl ⟨a, rfl, congrArg Except.ok (Except.ok.inj h)⟩
      | error e' => exact nomatch h
  | error e =>
      cases x' with
      | ok b => exact nomatch h
      | error e' => exact .inr ⟨e, e', rfl, rfl, Except.error.inj h⟩

end Answers

/-! ## §3. Queries in opposite directions. -/

/-- **The second transport has under every address of the second query what
the first has under the address of the opposite page of the first query**, up
to the addresses in errors. -/
def Transport.Reverses (t' : Transport) (s' : Search) (t : Transport) (s : Search) : Prop :=
  ∀ p url url', p ≠ Int64.minValue → (s.pageUrl p).1 = .ok url → (s'.pageUrl (-p)).1 = .ok url' →
    (t'.answer [] url').mapError FetchError.unaddressed
      = (t.answer [] url).mapError FetchError.unaddressed

/-- **Two queries in opposite directions**, each at its own transport. -/
structure Query.Opposes (t t' : Transport) (q q' : Query) : Prop where
  config_eq : q'.config = q.config
  cursor_eq : q'.cursor = q.cursor
  isFinal_eq : q'.isFinal = q.isFinal
  matchbook_eq : q'.matchbook = q.matchbook.map Matchbook.reverse
  answers : ∀ book, q.matchbook = .ok book → ∀ p, p ≠ Int64.minValue → ∀ log log',
    (t'.answer log' (q.urlFor book (-p))).mapError FetchError.unaddressed
      = (t.answer log (q.urlFor book p)).mapError FetchError.unaddressed

/-- **Two searches in opposite directions**: the queries are, and the stores
have the same pages under opposite numbers. -/
structure Search.Opposes (t t' : Transport) (s s' : Search) : Prop where
  query : s.query.Opposes t t' s'.query
  cache_eq : s'.cache = s.cache.reverse

section Opposed

variable {t t' : Transport} {q q' : Query} {s s' : Search} {book : Matchbook} {p : Int64}
  {body : Page} {url url' : String}

theorem Query.Opposes.matchbook_ok (h : q.Opposes t t' q') (hbook : q.matchbook = .ok book) :
    q'.matchbook = .ok book.reverse := by
  rw [h.matchbook_eq, hbook]
  rfl

theorem Query.Opposes.matchbook_error {cause : Predicate.PredicateError} (h : q.Opposes t t' q')
    (hbook : q.matchbook = .error cause) : q'.matchbook = .error cause := by
  rw [h.matchbook_eq, hbook]
  rfl

theorem Query.Opposes.pageSize_eq (h : q.Opposes t t' q') : q'.pageSize = q.pageSize :=
  congrArg Config.pageSize h.config_eq

/-- The direction is not in the addresses. -/
theorem Query.Opposes.urlFor_eq (h : q.Opposes t t' q') (book : Matchbook) (p : Int64) :
    q'.urlFor book.reverse p = q.urlFor book p := by
  unfold Query.urlFor
  rw [h.pageSize_eq, h.config_eq]
  rfl

theorem Query.Opposes.direction_eq (h : q.Opposes t t' q') (hbook : q.matchbook = .ok book) :
    q'.direction = q.direction.reverse := by
  rw [Query.direction_eq hbook, Query.direction_eq (h.matchbook_ok hbook)]
  rfl

theorem Query.Opposes.fix (h : q.Opposes t t' q') (hbook : q.matchbook = .ok book) :
    (q.fix book).Opposes t t' (q'.fix book.reverse) where
  config_eq := h.config_eq
  cursor_eq := h.cursor_eq
  isFinal_eq := rfl
  matchbook_eq := rfl
  answers := by
    intro b hb
    rw [← Except.ok.inj hb]
    exact h.answers book hbook

theorem Query.Opposes.copyAt (h : q.Opposes t t' q') (hbook : q.matchbook = .ok book)
    (c : Cursor) : (q.copyAt book c).Opposes t t' (q'.copyAt book.reverse c) :=
  { h.fix hbook with cursor_eq := rfl }

theorem Search.Opposes.fixed (h : s.Opposes t t' s') (hbook : s.query.matchbook = .ok book) :
    (s.fixed book).Opposes t t' (s'.fixed book.reverse) :=
  ⟨h.query.fix hbook, h.cache_eq⟩

theorem Search.Opposes.copied (h : s.Opposes t t' s') (hbook : s.query.matchbook = .ok book)
    (c : Cursor) : (s.copied book c).Opposes t t' (s'.copied book.reverse c) :=
  ⟨h.query.copyAt hbook c, h.cache_eq⟩

theorem Search.Opposes.moveCursor (h : s.Opposes t t' s') (move : Cursor → Cursor) :
    (s.moveCursor move).Opposes t t' (s'.moveCursor move) where
  query := { h.query with cursor_eq := congrArg move h.query.cursor_eq }
  cache_eq := h.cache_eq

theorem Search.Opposes.total_eq (h : s.Opposes t t' s') : s'.cache.total = s.cache.total := by
  rw [h.cache_eq]
  rfl

/-- How many records are still to come is announced alike. -/
theorem Search.Opposes.sizeHint_eq (h : s.Opposes t t' s') : s'.sizeHint = s.sizeHint := by
  unfold Search.sizeHint
  rw [h.total_eq, h.query.isFinal_eq, h.query.cursor_eq]

/-- **The opposite pages arrive alike.** -/
theorem answer_opposes (h : s.Opposes t t' s') (hbook : s.query.matchbook = .ok book)
    (hp : p ≠ Int64.minValue) :
    (s'.answer t' book.reverse (-p)).mapError FetchError.unaddressed
      = (s.answer t book p).mapError FetchError.unaddressed := by
  have hanswer := h.query.answers book hbook p hp s.log s'.log
  unfold Search.answer
  rw [h.query.urlFor_eq]
  rcases mapError_cases hanswer with ⟨text, htext, htext'⟩ | ⟨e, e', he, he', hee'⟩
  · rw [htext, htext']
    exact read_unaddressed _ _ text
  · rw [he, he']
    exact congrArg Except.error hee'

/-! ## §4. The operations. -/

/-- Results and searches after an operation in both directions. -/
structure Search.Steps {α β : Type} (t t' : Transport) (R : α → β → Prop)
    (r : Except QueryError α × Search) (r' : Except QueryError β × Search) : Prop where
  result : Corresponds R r.1 r'.1
  search : r.2.Opposes t t' r'.2

/-- Both operations succeed, or both fail. -/
theorem Search.Steps.ok_or_error {α β : Type} {R : α → β → Prop}
    {r : Except QueryError α × Search} {r' : Except QueryError β × Search}
    (h : Search.Steps t t' R r r') :
    (∃ a b w w', r = (.ok a, w) ∧ r' = (.ok b, w') ∧ R a b ∧ w.Opposes t t' w')
      ∨ ∃ e e' w w', r = (.error e, w) ∧ r' = (.error e', w')
          ∧ e'.unaddressed = e.reverse.unaddressed ∧ w.Opposes t t' w' := by
  obtain ⟨x, w⟩ := r
  obtain ⟨x', w'⟩ := r'
  obtain ⟨hresult, hsearch⟩ := h
  cases hresult with
  | ok hab => exact .inl ⟨_, _, w, w', rfl, rfl, hab, hsearch⟩
  | error hee' => exact .inr ⟨_, _, w, w', rfl, rfl, hee', hsearch⟩

/-- Without a search term for every filter an operation fails in both
directions, and changes nothing. -/
theorem Search.Opposes.refused {α β : Type} {R : α → β → Prop} (h : s.Opposes t t' s')
    (cause : Predicate.PredicateError) :
    Search.Steps t t' R (.error (.predicate cause), s) (.error (.predicate cause), s') :=
  ⟨.error rfl, h⟩

theorem finalize_opposes (h : s.Opposes t t' s') :
    Search.Steps t t' (fun b b' => b' = b.reverse) s.finalize s'.finalize := by
  cases hbook : s.query.matchbook with
  | error cause =>
      rw [Search.finalize_error hbook, Search.finalize_error (h.query.matchbook_error hbook)]
      exact h.refused cause
  | ok book =>
      rw [Search.finalize_ok hbook, Search.finalize_ok (h.query.matchbook_ok hbook)]
      exact ⟨.ok rfl, h.fixed hbook⟩

theorem pageUrl_opposes (h : s.Opposes t t' s') (p p' : Int64) :
    Search.Steps t t' (fun _ _ => True) (s.pageUrl p) (s'.pageUrl p') := by
  cases hbook : s.query.matchbook with
  | error cause =>
      rw [Search.pageUrl_error hbook, Search.pageUrl_error (h.query.matchbook_error hbook)]
      exact h.refused cause
  | ok book =>
      rw [Search.pageUrl_fixed hbook, Search.pageUrl_fixed (h.query.matchbook_ok hbook),
        Search.pageUrl_final Search.stage_fixed, Search.pageUrl_final Search.stage_fixed]
      exact ⟨.ok trivial, h.fixed hbook⟩

/-- **A page is stored under the opposite number**, if it can be. -/
theorem storePage_opposes (h : s.Opposes t t' s') (p : Int64) (body : Page) (url url' : String) :
    Search.Steps t t' (fun _ _ => True) (s.storePage p body url) (s'.storePage (-p) body url') := by
  have hput : ∀ N : UInt64, (⟨Assoc.put (-p) body s'.cache.pages, some N⟩ : PageCache)
      = PageCache.reverse ⟨Assoc.put p body s.cache.pages, some N⟩ := by
    intro N
    rw [h.cache_eq]
    exact congrArg (PageCache.mk · (some N)) (put_reverse p body s.cache.pages)
  cases hN : s.cache.total with
  | some N =>
      have hN' : s'.cache.total = some N := h.total_eq.trans hN
      rw [Search.storePage_ok (PageCache.store_known hN p body url),
        Search.storePage_ok (PageCache.store_known hN' (-p) body url')]
      exact ⟨.ok trivial, h.query, hput N⟩
  | none =>
      have hstore := PageCache.store_unknown hN p body url
      have hstore' := PageCache.store_unknown (h.total_eq.trans hN) (-p) body url'
      -- Both pages tell the same number of records, or none.
      rcases mapError_cases (total_unaddressed body url url') with
        ⟨N, htold, htold'⟩ | ⟨e, e', huntold, huntold', hee'⟩
      · rw [htold] at hstore
        rw [htold'] at hstore'
        rw [Search.storePage_ok hstore, Search.storePage_ok hstore']
        exact ⟨.ok trivial, h.query, hput N⟩
      · rw [huntold] at hstore
        rw [huntold'] at hstore'
        rw [Search.storePage_error hstore, Search.storePage_error hstore']
        exact ⟨.fetch hee', h⟩

/-- **The opposite page is requested**, and stored if it arrives. -/
theorem fetchPage_opposes (h : s.Opposes t t' s') (hp : p ≠ Int64.minValue) :
    Search.Steps t t' (fun _ _ => True) (s.fetchPage t p) (s'.fetchPage t' (-p)) := by
  cases hbook : s.query.matchbook with
  | error cause =>
      rw [Search.fetchPage_error hbook, Search.fetchPage_error (h.query.matchbook_error hbook)]
      exact h.refused cause
  | ok book =>
      have hfixed := h.fixed hbook
      have hasked : ((s.fixed book).asked book p).Opposes t t'
          ((s'.fixed book.reverse).asked book.reverse (-p)) := ⟨hfixed.query, hfixed.cache_eq⟩
      have hanswer := answer_opposes hfixed (Query.matchbook_of_final Search.stage_fixed) hp
      rw [Search.fetchPage_fixed hbook, Search.fetchPage_fixed (h.query.matchbook_ok hbook)]
      rcases mapError_cases hanswer with
        ⟨body, hbody, hbody'⟩ | ⟨e, e', he, he', hee'⟩
      · rw [Search.fetchPage_answered Search.stage_fixed hbody,
          Search.fetchPage_answered Search.stage_fixed hbody']
        exact storePage_opposes hasked p body _ _
      · rw [Search.fetchPage_missed Search.stage_fixed he,
          Search.fetchPage_missed Search.stage_fixed he']
        exact ⟨.fetch hee', hasked⟩

theorem insertPage_opposes (h : s.Opposes t t' s') (p : Int64) (body : Page) :
    Search.Steps t t' (fun _ _ => True) (s.insertPage p body) (s'.insertPage (-p) body) := by
  cases hbook : s.query.matchbook with
  | error cause =>
      rw [Search.insertPage_error hbook, Search.insertPage_error (h.query.matchbook_error hbook)]
      exact h.refused cause
  | ok book =>
      rw [Search.insertPage_fixed hbook, Search.insertPage_fixed (h.query.matchbook_ok hbook),
        Search.insertPage_final Search.stage_fixed, Search.insertPage_final Search.stage_fixed]
      exact storePage_opposes (h.fixed hbook) p body _ _

/-- The first page of the direction is asked for. -/
theorem length_unknown (hstage : s.query.stage = .final book) (hN : s.cache.total = none) :
    s.length t = match s.fetchPage t book.direction.sign with
      | (.error e, s) => (.error e, s)
      | (.ok _, s) => (.ok (s.cache.total.getD 0), s) := by
  rcases hfetch : s.fetchPage t book.direction.sign with ⟨r, w⟩
  cases r with
  | error e => exact Search.length_failed hstage hN hfetch
  | ok _ =>
      unfold Search.length
      rw [Search.finalize_final hstage]
      simp only [hN, Query.direction_eq (Query.matchbook_of_final hstage), hfetch]

/-- **The number of records is the same**; it is learned from the first page
of either direction. -/
theorem length_opposes (h : s.Opposes t t' s') :
    Search.Steps t t' Eq (s.length t) (s'.length t') := by
  cases hbook : s.query.matchbook with
  | error cause =>
      rw [Search.length_error hbook, Search.length_error (h.query.matchbook_error hbook)]
      exact h.refused cause
  | ok book =>
      have hfixed := h.fixed hbook
      rw [Search.length_fixed hbook, Search.length_fixed (h.query.matchbook_ok hbook)]
      cases hN : (s.fixed book).cache.total with
      | some N =>
          rw [Search.length_known Search.stage_fixed hN,
            Search.length_known Search.stage_fixed (hfixed.total_eq.trans hN)]
          exact ⟨.ok rfl, hfixed⟩
      | none =>
          have hsign : book.reverse.direction.sign = -book.direction.sign := sign_reverse _
          rw [length_unknown Search.stage_fixed hN,
            length_unknown Search.stage_fixed (hfixed.total_eq.trans hN), hsign]
          have hfetch := fetchPage_opposes (p := book.direction.sign) hfixed (sign_ne_minValue _)
          rcases hfetch.ok_or_error with
            ⟨_, _, w, w', hr, hr', -, hw⟩ | ⟨e, e', w, w', hr, hr', hee', hw⟩
          · rw [hr, hr']
            exact ⟨.ok (congrArg (Option.getD · 0) hw.total_eq.symm), hw⟩
          · rw [hr, hr']
            exact ⟨.error hee', hw⟩

theorem isEmpty_opposes (h : s.Opposes t t' s') :
    Search.Steps t t' Eq (s.isEmpty t) (s'.isEmpty t') := by
  unfold Search.isEmpty
  rcases (length_opposes h).ok_or_error with
    ⟨N, N', w, w', hr, hr', hN, hw⟩ | ⟨e, e', w, w', hr, hr', hee', hw⟩
  · rw [hr, hr']
    exact ⟨.ok (congrArg (· == 0) hN), hw⟩
  · rw [hr, hr']
    exact ⟨.error hee', hw⟩

/-- **A record is looked up under the same key**, on the opposite page. -/
theorem stored_opposes (h : s.Opposes t t' s') (slot : Slot) :
    Corresponds Eq (s.stored slot) (s'.stored slot.reverse) := by
  have hpage : s'.cache.page? slot.reverse.page = s.cache.page? slot.page := by
    rw [h.cache_eq]
    exact page?_reverse s.cache slot.page
  unfold Search.stored
  dsimp only
  rw [hpage, key_reverse, h.query.pageSize_eq, h.total_eq]
  cases (s.cache.page? slot.page).bind fun page =>
      Search.entryAt? page (slot.key s.query.pageSize (s.cache.total.getD 0)) with
  | some entry => exact .ok rfl
  | none => exact .error rfl

/-- **The record at a position** is on the opposite page. -/
theorem recordAt_opposes (h : s.Opposes t t' s') (hbook : s.query.matchbook = .ok book)
    {position : UInt64} (hposition : position.toNat + 1 < 2 ^ 63) :
    Search.Steps t t' Eq (s.recordAt t position) (s'.recordAt t' position) := by
  have hdiv := Nat.div_le_self position.toNat s.query.pageSize.toNat
  have hslot : Slot.locate? position s.query.pageSize s.query.direction
      = some (Slot.locate position s.query.pageSize s.query.direction) :=
    locate?_of_lt _ s.query.pageSize_pos (by omega)
  have hslot' : Slot.locate? position s'.query.pageSize s'.query.direction
      = some (Slot.locate position s.query.pageSize s.query.direction).reverse := by
    rw [h.query.pageSize_eq, locate?_of_lt _ s.query.pageSize_pos (by omega),
      h.query.direction_eq hbook, locate_reverse]
  have hp : (Slot.locate position s.query.pageSize s.query.direction).page ≠ Int64.minValue :=
    locate_ne_minValue s.query.pageSize_pos hposition
  unfold Search.recordAt
  rw [hslot, hslot']
  dsimp only
  generalize Slot.locate position s.query.pageSize s.query.direction = slot at hp
  have hcontains : s'.cache.contains slot.reverse.page = s.cache.contains slot.page := by
    rw [h.cache_eq]
    exact contains_reverse s.cache slot.page
  rw [hcontains]
  split
  · exact ⟨stored_opposes h slot, h⟩
  · have hfetch := fetchPage_opposes h hp
    rw [show -slot.page = slot.reverse.page from rfl] at hfetch
    rcases hfetch.ok_or_error with
      ⟨_, _, w, w', hr, hr', -, hw⟩ | ⟨e, e', w, w', hr, hr', hee', hw⟩
    · rw [hr, hr']
      exact ⟨stored_opposes hw slot, hw⟩
    · rw [hr, hr']
      exact ⟨.error hee', hw⟩

/-- What a step is told of the number of records is in the store after it. -/
theorem total_of_next {N : UInt64} (hs : s.cache.Settled)
    (hmax : s.query.cursor.isExhausted maxCount = false) (hlen : (s.length t).1 = .ok N) :
    (s.next t).2.cache.total = some N := by
  have htold := Search.total_of_length hs hlen
  unfold Search.next
  rw [hmax]
  rcases hr : s.length t with ⟨r, w⟩
  rw [hr] at hlen htold
  obtain rfl : r = .ok N := hlen
  simp only [Bool.false_eq_true, if_false]
  split
  · exact htold
  · obtain ⟨c, hgo⟩ := Search.snd_goOn (w.recordAt t w.query.cursor.position).1
      (w.recordAt t w.query.cursor.position).2
    rw [hgo]
    exact (Search.persistent_upholds.recordAt t w.query.cursor.position w).cache.total N htold

/-- Whoever is told a number of records has written the terms down. -/
theorem matchbook_of_length {N : UInt64} {w : Search} (hlen : s.length t = (.ok N, w)) :
    ∃ book, w.query.matchbook = .ok book := by
  cases hbook : s.query.matchbook with
  | error cause =>
      rw [Search.length_error hbook] at hlen
      exact absurd (congrArg Prod.fst hlen) (by simp)
  | ok book =>
      have hfinal := (Search.persistent_upholds.length t (s.fixed book)).final book
        Search.stage_fixed
      rw [← Search.length_fixed hbook, hlen] at hfinal
      exact ⟨book, Query.matchbook_of_final hfinal⟩

theorem stepOver?_unaddressed (k : UInt64) (e : QueryError) (c : Cursor) :
    Search.stepOver? k (.error e.unaddressed) c = Search.stepOver? k (.error e) c := by
  cases e <;> rfl

theorem stepOver?_reverse (k : UInt64) (e : QueryError) (c : Cursor) :
    Search.stepOver? k (.error e.reverse) c = Search.stepOver? k (.error e) c := by
  cases e <;> rfl

/-- **The cursor goes on alike** after a record, or the lack of it. -/
theorem stepOver?_opposes {r r' : Except QueryError Entry} (h : Corresponds Eq r r') (k : UInt64)
    (c : Cursor) : Search.stepOver? k r' c = Search.stepOver? k r c := by
  cases h with
  | ok hab => rw [hab]
  | @error e e' hee' =>
      calc Search.stepOver? k (.error e') c
          = Search.stepOver? k (.error e'.unaddressed) c := (stepOver?_unaddressed k e' c).symm
        _ = Search.stepOver? k (.error e.reverse.unaddressed) c := by rw [hee']
        _ = Search.stepOver? k (.error e.reverse) c := stepOver?_unaddressed k e.reverse c
        _ = Search.stepOver? k (.error e) c := stepOver?_reverse k e c

/-- **A record is answered alike**, or the program breaks off in both directions. -/
theorem goOn_opposes {r r' : Except QueryError Entry} (h : s.Opposes t t' s')
    (hr : Corresponds Eq r r') : Search.Steps t t' Eq (s.goOn r) (s'.goOn r') := by
  have hstep : Search.stepOver? s'.query.pageSize r' s'.query.cursor
      = Search.stepOver? s.query.pageSize r s.query.cursor := by
    rw [h.query.pageSize_eq, h.query.cursor_eq, stepOver?_opposes hr]
  rcases Search.goOn_cases r s with ⟨c, hc, hgo⟩ | ⟨hc, hgo⟩
  · rw [hgo, Search.goOn_of_some (hstep.trans hc)]
    exact ⟨hr, h.moveCursor fun _ => c⟩
  · rw [hgo, Search.goOn_of_none (hstep.trans hc)]
    exact ⟨.error rfl, h⟩

theorem Corresponds.indexed {r r' : Except QueryError Entry} (h : Corresponds Eq r r') :
    Corresponds Eq (Search.indexed (some r)) (Search.indexed (some r')) := by
  cases h with
  | ok hab => exact .ok (congrArg some hab)
  | error hee' => exact .error hee'

/-- **A step of a walk**, through up to `2^63 - 1` records. -/
theorem next_opposes (h : s.Opposes t t' s') (hs : s.cache.Settled)
    (hbound : ∀ N, (s.next t).2.cache.total = some N → N.toNat < 2 ^ 63) :
    Search.Steps t t' Eq (Search.indexed (s.next t).1, (s.next t).2)
      (Search.indexed (s'.next t').1, (s'.next t').2) := by
  cases hmax : s.query.cursor.isExhausted maxCount with
  | true =>
      have hmax' : s'.query.cursor.isExhausted maxCount = true := by rw [h.query.cursor_eq, hmax]
      rw [Search.next_over hmax, Search.next_over hmax']
      exact ⟨.ok rfl, h⟩
  | false =>
      have hmax' : s'.query.cursor.isExhausted maxCount = false := by rw [h.query.cursor_eq, hmax]
      rcases (length_opposes h).ok_or_error with
        ⟨N, N', w, w', hr, hr', rfl, hw⟩ | ⟨e, e', w, w', hr, hr', hee', hw⟩
      · -- The bound is on what is known afterwards, and a step forgets nothing.
        have hN : N.toNat < 2 ^ 63 :=
          hbound N (total_of_next hs hmax (congrArg Prod.fst hr))
        unfold Search.next
        simp only [hmax, hmax', hr, hr', Bool.false_eq_true, if_false]
        rw [hw.query.cursor_eq]
        cases hend : w.query.cursor.isExhausted N with
        | true => exact ⟨.ok rfl, hw⟩
        | false =>
            have hposition := Cursor.position_lt hend
            obtain ⟨book, hbook⟩ := matchbook_of_length hr
            obtain ⟨hresult, hsearch⟩ :=
              recordAt_opposes hw hbook (show w.query.cursor.position.toNat + 1 < 2 ^ 63 by omega)
            obtain ⟨hitem, hafter⟩ := goOn_opposes hsearch hresult
            simp only [Bool.false_eq_true, if_false]
            exact ⟨hitem.indexed, hafter⟩
      · rw [Search.next_of_length_error hr hmax, Search.next_of_length_error hr' hmax']
        exact ⟨.error hee', hw.moveCursor Cursor.halt⟩

/-- **The record at an index** is read by copies in both directions. -/
theorem get_opposes (h : s.Opposes t t' s') (hs : s.cache.Settled) (index : UInt64)
    (hbound : ∀ N, (s.get t index).2.cache.total = some N → N.toNat < 2 ^ 63) :
    Search.Steps t t' Eq (s.get t index) (s'.get t' index) := by
  cases hbook : s.query.matchbook with
  | error cause =>
      rw [Search.get_error hbook, Search.get_error (h.query.matchbook_error hbook)]
      exact h.refused cause
  | ok book =>
      rw [Search.get_ok hbook] at hbound ⊢
      rw [Search.get_ok (h.query.matchbook_ok hbook)]
      obtain ⟨hresult, hsearch⟩ :=
        next_opposes (h.copied hbook (Cursor.startingAt index)) hs hbound
      exact ⟨hresult, h.query.fix hbook, hsearch.cache_eq⟩

/-- **Copies are made alike**, and go in opposite directions. -/
theorem fork_opposes (h : s.Opposes t t' s') (c : Cursor) :
    Search.Steps t t' (Query.Opposes t t') (s.fork c) (s'.fork c) := by
  cases hbook : s.query.matchbook with
  | error cause =>
      rw [Search.fork_error hbook, Search.fork_error (h.query.matchbook_error hbook)]
      exact h.refused cause
  | ok book =>
      rw [Search.fork_ok hbook, Search.fork_ok (h.query.matchbook_ok hbook)]
      exact ⟨.ok (h.query.copyAt hbook c), h.fixed hbook⟩

end Opposed

/-! ## §5. Actions in both directions. -/

/-- Answers, searches and copies after an action in both directions. -/
structure Search.Acts (t t' : Transport) (r r' : Outcome × Search × Option Query) : Prop where
  outcome : r'.1.unaddressed = r.1.reverse.unaddressed
  search : r.2.1.Opposes t t' r'.2.1
  copy : List.Forall₂ (Query.Opposes t t') r.2.2.toList r'.2.2.toList

section Actions

variable {t t' : Transport} {s s' : Search} {a : Action}

/-- An operation that makes no copy, as an action. -/
theorem Search.Steps.acts {α β : Type} {R : α → β → Prop} {r : Except QueryError α × Search}
    {r' : Except QueryError β × Search} {answer : α → Outcome} {answer' : β → Outcome}
    (h : Search.Steps t t' R r r')
    (hok : ∀ x y, R x y → (answer' y).unaddressed = (answer x).reverse.unaddressed) :
    Search.Acts t t' (.ofResult answer r.1, r.2, none) (.ofResult answer' r'.1, r'.2, none) :=
  ⟨h.result.outcome_eq hok, h.search, .nil⟩

/-- A step of a walk is answered like a record at an index. -/
theorem ofNext_eq (r : Option (Except QueryError Entry)) :
    Outcome.ofNext r = .ofResult .record (Search.indexed r) := by
  cases r with
  | none => rfl
  | some answer => cases answer <;> rfl

/-- **The same action in both directions.** -/
theorem perform_opposes (h : s.Opposes t t' s') (hs : s.cache.Settled) (ha : a.Reversible)
    (place : Nat)
    (hbound : ∀ N, (s.perform t place a).2.1.cache.total = some N → N.toNat < 2 ^ 63) :
    Search.Acts t t' (s.perform t place a) (s'.perform t' place a.reverse) := by
  cases a with
  | edit change => exact absurd ha id
  | finalize => exact (finalize_opposes h).acts fun b b' hb => by rw [hb]; rfl
  | pageUrl p => exact (pageUrl_opposes h p (-p)).acts fun _ _ _ => rfl
  | fetchPage p => exact (fetchPage_opposes h ha).acts fun _ _ _ => rfl
  | insertPage p body => exact (insertPage_opposes h p body).acts fun _ _ _ => rfl
  | length => exact (length_opposes h).acts fun _ _ hN => by rw [hN]; rfl
  | isEmpty => exact (isEmpty_opposes h).acts fun _ _ hb => by rw [hb]; rfl
  | next =>
      show Search.Acts t t' (.ofNext (s.next t).1, (s.next t).2, none)
        (.ofNext (s'.next t').1, (s'.next t').2, none)
      rw [ofNext_eq, ofNext_eq]
      exact (next_opposes h hs hbound).acts fun _ _ hentry => by rw [hentry]; rfl
  | get index => exact (get_opposes h hs index hbound).acts fun _ _ hentry => by rw [hentry]; rfl
  | slice lower upper step =>
      obtain ⟨hresult, hsearch⟩ := fork_opposes h (Cursor.between lower.first upper.limit step)
      refine ⟨hresult.outcome_eq fun _ _ _ => rfl, hsearch, ?_⟩
      show List.Forall₂ _ (s.fork _).1.toOption.toList (s'.fork _).1.toOption.toList
      generalize (s.fork _).1 = x at hresult
      generalize (s'.fork _).1 = x' at hresult
      cases hresult with
      | ok hcopy => exact .cons hcopy .nil
      | error _ => exact .nil
  | rewind => exact ⟨rfl, h.moveCursor _, .nil⟩

end Actions

/-! ## §6. Runs in both directions. -/

/-- **Two families in opposite directions.** -/
structure Family.Opposes (t t' : Transport) (f g : Family) : Prop where
  queries : List.Forall₂ (Query.Opposes t t') f.queries g.queries
  cache_eq : g.cache = f.cache.reverse

section Runs

variable {t t' : Transport} {config : Config} {f f' g g' : Family} {place : Nat} {a : Action}
  {outcome : Outcome} {q : Query}

/-- The query at the same place. -/
theorem Family.Opposes.search_at (h : f.Opposes t t' g) (hq : f.queries[place]? = some q) :
    ∃ q', g.queries[place]? = some q'
      ∧ Search.Opposes t t' ⟨q, f.cache, f.log⟩ ⟨q', g.cache, g.log⟩ := by
  obtain ⟨hplace, hget⟩ := List.getElem?_eq_some_iff.mp hq
  have hplace' : place < g.queries.length := h.queries.length_eq ▸ hplace
  refine ⟨g.queries[place], List.getElem?_eq_getElem hplace', ?_, h.cache_eq⟩
  show q.Opposes t t' g.queries[place]
  rw [← hget]
  exact h.queries.get hplace hplace'

theorem Family.Opposes.none_at (h : f.Opposes t t' g) (hq : f.queries[place]? = none) :
    g.queries[place]? = none := by
  rw [List.getElem?_eq_none_iff] at hq ⊢
  rw [← h.queries.length_eq]
  exact hq

theorem forall₂_set {α β : Type} {R : α → β → Prop} {xs : List α} {ys : List β} {x : α} {y : β}
    (h : List.Forall₂ R xs ys) (hxy : R x y) :
    ∀ n, List.Forall₂ R (xs.set n x) (ys.set n y) := by
  induction h with
  | nil => exact fun _ => .nil
  | @cons x' y' xs ys hxy' hrest ih =>
      intro n
      cases n with
      | zero => exact .cons hxy hrest
      | succ n => exact .cons hxy' (ih n)

/-- **The same action in two families**, one in either direction. -/
theorem Family.Opposes.perform (h : f.Opposes t t' g) (hf : f.cache.Settled) (ha : a.Reversible)
    (hperform : f.perform t place a = some (outcome, f'))
    (hbound : ∀ N, f'.cache.total = some N → N.toNat < 2 ^ 63) :
    ∃ outcome' g', g.perform t' place a.reverse = some (outcome', g')
      ∧ outcome'.unaddressed = outcome.reverse.unaddressed ∧ f'.Opposes t t' g' := by
  obtain ⟨q, hq, s, copy, hr, rfl⟩ := perform_cases hperform
  obtain ⟨q', hq', hsearch⟩ := h.search_at hq
  have hacts : Search.Acts t t' (Search.perform t f.queries.length ⟨q, f.cache, f.log⟩ a)
      (Search.perform t' f.queries.length ⟨q', g.cache, g.log⟩ a.reverse) := by
    apply perform_opposes hsearch hf ha
    rw [hr]
    exact hbound
  rw [hr, h.queries.length_eq] at hacts
  rw [perform_eq hq']
  rcases hr' : Search.perform t' g.queries.length ⟨q', g.cache, g.log⟩ a.reverse
    with ⟨outcome', s', copy'⟩
  rw [hr'] at hacts
  refine ⟨outcome', _, rfl, hacts.outcome, ?_, hacts.search.cache_eq⟩
  exact List.rel_append (forall₂_set h.queries hacts.search.query place) hacts.copy

/-- **The same run in two families**, one in either direction. -/
theorem run_opposes (acts : List (Nat × Action)) :
    ∀ f g : Family, f.Opposes t t' g → f.Coherent config →
      (∀ act ∈ acts, act.2.Reversible) →
      (∀ N, (f.run t acts).2.cache.total = some N → N.toNat < 2 ^ 63) →
      (g.run t' (acts.map fun act => (act.1, act.2.reverse))).1.map Outcome.unaddressed
          = (f.run t acts).1.map (fun outcome => outcome.reverse.unaddressed)
        ∧ (f.run t acts).2.Opposes t t'
            (g.run t' (acts.map fun act => (act.1, act.2.reverse))).2 := by
  induction acts with
  | nil => intro f g h _ _ _; exact ⟨rfl, h⟩
  | cons act acts ih =>
      intro f g h hf hacts hbound
      obtain ⟨place, a⟩ := act
      have hrest : ∀ act ∈ acts, act.2.Reversible :=
        fun act hact => hacts act (List.mem_cons_of_mem _ hact)
      cases hq : f.queries[place]? with
      | none =>
          rw [run_skip (perform_missing hq a)] at hbound ⊢
          rw [List.map_cons, run_skip (perform_missing (h.none_at hq) a.reverse)]
          exact ih f g h hf hrest hbound
      | some q =>
          obtain ⟨outcome, f', hperform⟩ :
              ∃ outcome f', f.perform t place a = some (outcome, f') := ⟨_, _, perform_eq hq a⟩
          rw [run_step hperform] at hbound ⊢
          obtain ⟨hf', -⟩ := hf.perform hperform
          -- A number of records that is told now is still known in the end.
          have hnow : ∀ N, f'.cache.total = some N → N.toNat < 2 ^ 63 := by
            intro N hN
            exact hbound N ((coherent_run t acts hf').2.total N hN)
          obtain ⟨outcome', g', hperform', houtcome, h'⟩ :=
            h.perform hf.settled_cache (hacts _ List.mem_cons_self) hperform hnow
          obtain ⟨houtcomes, hlast⟩ := ih f' g' h' hf' hrest hbound
          rw [List.map_cons, run_step hperform']
          refine ⟨?_, hlast⟩
          rw [List.map_cons, List.map_cons, houtcome, houtcomes]

/-- The cursors are at the same places. -/
theorem Family.Opposes.cursor?_eq (h : f.Opposes t t' g) (place : Nat) :
    g.cursor? place = f.cursor? place := by
  unfold Family.cursor?
  cases hq : f.queries[place]? with
  | none => rw [h.none_at hq]
  | some q =>
      obtain ⟨q', hq', hsearch⟩ := h.search_at hq
      rw [hq']
      exact congrArg some hsearch.query.cursor_eq

theorem Family.Opposes.sizeHint_eq (h : f.Opposes t t' g) (place : Nat) :
    (g.search? place).map Search.sizeHint = (f.search? place).map Search.sizeHint := by
  unfold Family.search?
  cases hq : f.queries[place]? with
  | none =>
      rw [h.none_at hq]
      rfl
  | some q =>
      obtain ⟨q', hq', hsearch⟩ := h.search_at hq
      rw [hq']
      exact congrArg some hsearch.sizeHint_eq

end Runs

/-! ## §7. Changes up to the direction. -/

/-- A change without the direction that it asks for. -/
def Edit.undirected : Edit → Edit
  | .orderBy o => .orderBy (.ascending o.field)
  | change => change

section Changes

variable {changes changes' : List Edit} {o : Sorting}

theorem flatMap_undirected {α : Type} {adds : Edit → List α}
    (h : ∀ c : Edit, adds c.undirected = adds c) (changes : List Edit) :
    (changes.map Edit.undirected).flatMap adds = changes.flatMap adds := by
  rw [List.flatMap_map]
  exact congrArg (fun g => changes.flatMap g) (funext h)

theorem sortKeys_undirected (changes : List Edit) :
    sortKeys (changes.map Edit.undirected) = sortKeys changes := by
  induction changes with
  | nil => rfl
  | cons c changes ih =>
      cases c with
      | orderBy o => exact congrArg (o.field :: ·) ih
      | _ => exact ih

/-- Which keywords stay selected does not depend on directions. -/
theorem standing_undirected (changes : List Edit) :
    ∀ key, standing key (changes.map Edit.undirected) = standing key changes := by
  induction changes with
  | nil => intro key; rfl
  | cons c changes ih =>
      intro key
      cases c with
      | select fs =>
          show _ ++ standing key (changes.map Edit.undirected) = _ ++ standing key changes
          rw [sortKeys_undirected, ih key]
      | orderBy o => exact ih (some o.field)
      | filter e => exact ih key
      | exclude fs => exact ih key

/-- **The matchbooks differ in the direction alone.** -/
theorem matchbook_reverse (hsame : changes'.map Edit.undirected = changes.map Edit.undirected)
    (ho : (changes.flatMap Edit.ordered).getLast? = some o)
    (ho' : (changes'.flatMap Edit.ordered).getLast? = some o.reverse) :
    (Terms.collect changes').matchbook
      = (Terms.collect changes).matchbook.map Matchbook.reverse := by
  -- What the changes add is the same for each kind but the orderings.
  have hfiltered : changes'.flatMap Edit.filtered = changes.flatMap Edit.filtered := by
    have hadds : ∀ c : Edit, c.undirected.filtered = c.filtered := fun c => by cases c <;> rfl
    rw [← flatMap_undirected hadds changes', hsame, flatMap_undirected hadds]
  have hexcluded : changes'.flatMap Edit.excluded = changes.flatMap Edit.excluded := by
    have hadds : ∀ c : Edit, c.undirected.excluded = c.excluded := fun c => by cases c <;> rfl
    rw [← flatMap_undirected hadds changes', hsame, flatMap_undirected hadds]
  have hstanding : standing none changes' = standing none changes := by
    rw [← standing_undirected changes', hsame, standing_undirected]
  rw [collect_eq, collect_eq, hfiltered, hexcluded, hstanding, ho, ho']
  unfold Terms.matchbook
  dsimp only
  cases renderAll (changes.flatMap Edit.filtered) <;> rfl

/-- The address of a page, once the terms can be written down. -/
theorem pageUrl_ok {s : Search} {book : Matchbook} (hbook : s.query.matchbook = .ok book)
    (p : Int64) : (s.pageUrl p).1 = .ok (s.query.urlFor book p) := by
  rw [Search.pageUrl_fixed hbook, Search.pageUrl_final Search.stage_fixed]
  rfl

/-- **The two queries are in opposite directions** when nothing has been read. -/
theorem edits_opposes {config : Config} {t t' : Transport} (ht : t.Steady) (ht' : t'.Steady)
    (hbook : (Terms.collect changes').matchbook
      = (Terms.collect changes).matchbook.map Matchbook.reverse)
    (hpages : t'.Reverses ((Search.start config).edits changes') t
      ((Search.start config).edits changes)) :
    ((Search.start config).edits changes).query.Opposes t t'
      ((Search.start config).edits changes').query where
  config_eq := by
    rw [edits_query rfl, edits_query rfl]
  cursor_eq := by
    rw [edits_query rfl, edits_query rfl]
  isFinal_eq := by
    rw [edits_query rfl, edits_query rfl]
    rfl
  matchbook_eq := by
    rw [matchbook_edits rfl, matchbook_edits rfl, hbook]
  answers := by
    intro book hok p hp log log'
    have hok' : ((Search.start config).edits changes').query.matchbook = .ok book.reverse := by
      rw [matchbook_edits rfl, hbook, ← matchbook_edits (s := Search.start config) rfl, hok]
      rfl
    -- One and the same address, for the direction is not in it.
    have haddress : ((Search.start config).edits changes').query.urlFor book.reverse (-p)
        = ((Search.start config).edits changes).query.urlFor book (-p) := by
      rw [edits_query rfl, edits_query rfl]
      rfl
    rw [ht log [], ht' log' [], ← haddress]
    exact hpages p _ _ hp (pageUrl_ok hok p) (pageUrl_ok hok' (-p))

/-- A query of which nothing has been read is alone and open. -/
theorem coherent_edits (config : Config) (changes : List Edit) :
    (Family.alone ((Search.start config).edits changes).query).Coherent config := by
  refine .collecting ⟨⟨Terms.collect changes, Cursor.startingAt 0, ?_⟩, rfl, rfl⟩
  rw [edits_query rfl]
  rfl

end Changes

/-- **THE DIRECTION ONLY MIRRORS PAGE NUMBERS.**  Two queries are given the
same changes up to directions, and in the end one sorts by a keyword in one
direction and the other by the same keyword in the other.  Of two steady
transports, the second has for every page of the second query what the first
has for the opposite page of the first query.  The terms are left alone from
now on, and whatever is done to the first query and its copies is done to the
second and its own, with opposite page numbers.  Then, as long as the number
of records is below `2^63`:

  * all answers are the same, up to the addresses in errors, the sign of the
    page in them and the direction of a matchbook;
  * every cursor is where its counterpart is, and as many records are
    announced to come;
  * there are as many pages in the store: the same under opposite numbers. -/
theorem direction_mirrors (config : Config) (changes changes' : List Edit) (o : Sorting)
    (t t' : Transport) (acts : List (Nat × Action))
    (hsame : changes'.map Edit.undirected = changes.map Edit.undirected)
    (ho : (changes.flatMap Edit.ordered).getLast? = some o)
    (ho' : (changes'.flatMap Edit.ordered).getLast? = some o.reverse)
    (ht : t.Steady) (ht' : t'.Steady)
    (hpages : t'.Reverses ((Search.start config).edits changes') t
      ((Search.start config).edits changes))
    (hacts : ∀ act ∈ acts, act.2.Reversible) :
    let run := (Family.alone ((Search.start config).edits changes).query).run t acts
    let run' := (Family.alone ((Search.start config).edits changes').query).run t'
      (acts.map fun act => (act.1, act.2.reverse))
    (∀ N, run.2.cache.total = some N → N.toNat < 2 ^ 63) →
      run'.1.map Outcome.unaddressed = run.1.map (fun outcome => outcome.reverse.unaddressed)
        ∧ (∀ place, run'.2.cursor? place = run.2.cursor? place)
        ∧ (∀ place, (run'.2.search? place).map Search.sizeHint
            = (run.2.search? place).map Search.sizeHint)
        ∧ run'.2.cache.size = run.2.cache.size
        ∧ run'.2.cache = run.2.cache.reverse := by
  intro run run' hbound
  have hfirst : (Family.alone ((Search.start config).edits changes).query).Opposes t t'
      (Family.alone ((Search.start config).edits changes').query) :=
    ⟨.cons (edits_opposes ht ht' (matchbook_reverse hsame ho ho') hpages) .nil, rfl⟩
  obtain ⟨houtcomes, hlast⟩ :=
    run_opposes acts _ _ hfirst (coherent_edits config changes) hacts hbound
  refine ⟨houtcomes, hlast.cursor?_eq, hlast.sizeHint_eq, ?_, hlast.cache_eq⟩
  rw [hlast.cache_eq]
  exact size_reverse run.2.cache

/-- Changes that sort in a direction, and one keyword selected. -/
def Sample.sorted (d : Direction) : List Edit := [.select [.auid], .orderBy ⟨.aurl, d⟩]

/-- These changes, written down. -/
def Sample.sortedBook (d : Direction) : Matchbook := ⟨some "aurl", d, ["auid"], [], []⟩

/-- A transport that has these pages of such a query. -/
def Sample.numbered (pages : List (Int64 × String)) : Transport where
  answer _ url :=
    match (pages.map fun m =>
        (Sample.singles.address (Sample.sortedBook .ascending) m.1, m.2)).lookup url with
    | some body => .ok body
    | none => .error (.status url 404 "")

theorem Sample.numbered_lookup (pages : List (Int64 × String)) (p : Int64) :
    (pages.map fun m =>
        (Sample.singles.address (Sample.sortedBook .ascending) m.1, m.2)).lookup
          (Sample.singles.address (Sample.sortedBook .ascending) p) = pages.lookup p := by
  induction pages with
  | nil => rfl
  | cons m pages ih =>
      have hkey : (Sample.singles.address (Sample.sortedBook .ascending) p
          == Sample.singles.address (Sample.sortedBook .ascending) m.1) = (p == m.1) := by
        rw [Bool.eq_iff_iff, beq_iff_eq, beq_iff_eq]
        exact ⟨address_inj, fun h => by rw [h]⟩
      rw [List.map_cons, List.lookup_cons, List.lookup_cons, hkey, ih]

theorem Sample.sorted_pageUrl (d : Direction) (p : Int64) :
    (((Search.start Sample.singles).edits (Sample.sorted d)).pageUrl p).1
      = .ok (Sample.singles.address (Sample.sortedBook .ascending) p) := by
  have hbook : ((Search.start Sample.singles).edits (Sample.sorted d)).query.matchbook
      = .ok (Sample.sortedBook d) := by
    rw [matchbook_edits rfl]
    cases d <;> decide
  rw [pageUrl_ok hbook, urlFor_eq_address, edits_query rfl]
  rfl

/-- **Pages under opposite numbers.** -/
theorem Sample.numbered_reverses (pages : List (Int64 × String)) :
    (Sample.numbered (pages.map fun m => (-m.1, m.2))).Reverses
      ((Search.start Sample.singles).edits (Sample.sorted .descending)) (Sample.numbered pages)
      ((Search.start Sample.singles).edits (Sample.sorted .ascending)) := by
  intro p url url' _ hurl hurl'
  rw [Sample.sorted_pageUrl] at hurl hurl'
  obtain rfl := Except.ok.inj hurl
  obtain rfl := Except.ok.inj hurl'
  unfold Sample.numbered
  dsimp only
  rw [Sample.numbered_lookup, Sample.numbered_lookup, lookup_reverse]
  cases pages.lookup p with
  | some body => rfl
  | none => simp only [Except.mapError, FetchError.unaddressed]

/-- Two pages, of which the second lacks its record. -/
def Sample.secondEmpty : List (Int64 × String) :=
  [(1, "\x7b\"1 of 2\":\x7b\x7d\x7d"), (2, "\x7b\x7d")]

/-- A query and a copy of it read, and pages are asked for and handed in. -/
def Sample.bothWays : List (Nat × Action) :=
  [(0, .next), (0, .slice (.included 1) .unbounded 1), (1, .next), (0, .fetchPage 3),
    (0, .insertPage (-4) []), (0, .length)]

/-- In descending order the missing record is on page `-2`, and page `-3`
cannot be had. -/
theorem direction_mirrors_descending :
    ∃ entry, ((Family.alone ((Search.start Sample.singles).edits
          (Sample.sorted .descending)).query).run
        (Sample.numbered (Sample.secondEmpty.map fun m => (-m.1, m.2)))
        (Sample.bothWays.map fun act => (act.1, act.2.reverse))).1.map Outcome.unaddressed
      = [.record (some entry), .copied 1, .failed (.missingRecord "2 of 2" (-2)),
          .failed (.fetch (.status "" 404 "")), .done, .count 2] := by
  have hacts : ∀ act ∈ Sample.bothWays, act.2.Reversible := by
    decide
  have hsteady : ∀ pages, (Sample.numbered pages).Steady := fun _ _ _ _ => rfl
  have hpages := Sample.numbered_reverses Sample.secondEmpty
  have hmirrors := direction_mirrors Sample.singles (Sample.sorted .ascending)
    (Sample.sorted .descending) (.ascending .aurl) _ _ Sample.bothWays rfl rfl rfl
    (hsteady _) (hsteady _) hpages hacts
  have htotal : ((Family.alone ((Search.start Sample.singles).edits
      (Sample.sorted .ascending)).query).run (Sample.numbered Sample.secondEmpty)
        Sample.bothWays).2.cache.total = some 2 := by
    decide +kernel
  obtain ⟨houtcomes, -⟩ := hmirrors (fun N hN => by
    rw [htotal] at hN
    rw [← Option.some.inj hN]
    decide)
  rw [houtcomes]
  refine ⟨Entry.ofRecord [], ?_⟩
  decide +kernel

end MaterialSearch
