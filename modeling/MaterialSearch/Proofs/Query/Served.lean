/-
  MaterialSearch.Proofs.Query.Served
  ────────────────────────────────
  **WALKS OVER PAGES THAT DO NOT CHANGE.**

  Whether a page comes from the store or from the transport makes no
  difference as long as both show the same.  A view says once and for all
  what there is to see of every page; under a view the answer of a step
  depends on the position alone, and what the step leaves behind is the
  page it requested.

  Main definitions:
    * `PageView`         — the entries of a page by key, or why it cannot be had
    * `Search.Shows`     — store and transport show the same view
    * `Search.recordIn`  — the record that a view has in a slot
    * `Search.TookPage`  — what one look at a page leaves behind

  Main results:
    * `length_told`     — how the number of records is learned
    * `recordAt_shown`, `next_shown` — reading under a view
-/
import MaterialSearch.Proofs.Query.Finalized

namespace MaterialSearch

/-! ## §1. The store of pages. -/

namespace PageCache

theorem contains_iff {c : PageCache} {p : Int64} :
    c.contains p = true ↔ ∃ body, c.page? p = some body := by
  unfold contains
  exact Option.isSome_iff_exists

theorem page?_put_self {p : Int64} {body : Page} {c : PageCache} {total : Option UInt64} :
    (PageCache.mk (Assoc.put p body c.pages) total).page? p = some body :=
  Assoc.lookup_put_self

theorem page?_put_of_ne {p p' : Int64} {body : Page} {c : PageCache} {total : Option UInt64}
    (h : p' ≠ p) :
    (PageCache.mk (Assoc.put p body c.pages) total).page? p' = c.page? p' :=
  Assoc.lookup_put_of_ne h

/-- After a page was put into the store, what is found there is this page, or
was there before. -/
theorem page?_put_cases {p p' : Int64} {body body' : Page} {c : PageCache} {total : Option UInt64}
    (h : (PageCache.mk (Assoc.put p body c.pages) total).page? p' = some body') :
    (p' = p ∧ body' = body) ∨ c.page? p' = some body' := by
  by_cases hp : p' = p
  · rw [hp, page?_put_self] at h
    exact .inl ⟨hp, (Option.some.inj h).symm⟩
  · rw [page?_put_of_ne hp] at h
    exact .inr h

theorem contains_put {p p' : Int64} {body : Page} {c : PageCache} {total : Option UInt64} :
    (PageCache.mk (Assoc.put p body c.pages) total).contains p' = true
      ↔ c.contains p' = true ∨ p' = p := by
  by_cases h : p' = p
  · subst h
    unfold contains
    rw [page?_put_self]
    simp
  · unfold contains
    rw [page?_put_of_ne h]
    simp [h]

theorem contains_of_page? {c : PageCache} {p : Int64} {body : Page} (h : c.page? p = some body) :
    c.contains p = true :=
  contains_iff.mpr ⟨body, h⟩

theorem not_contains_empty {c : PageCache} (h : c.pages = []) (p : Int64) :
    c.contains p = false := by
  unfold contains page?
  rw [h]
  rfl

/-- Once the total is known every page can be stored. -/
theorem store_known {c : PageCache} {N : UInt64} (hN : c.total = some N) (p : Int64)
    (body : Page) (url : String) :
    c.store p body url = .ok ⟨Assoc.put p body c.pages, some N⟩ := by
  unfold store
  simp only [hN]

/-- The first page stored tells the total. -/
theorem store_unknown {c : PageCache} (hN : c.total = none) (p : Int64) (body : Page)
    (url : String) :
    c.store p body url = (body.total url).map fun N => ⟨Assoc.put p body c.pages, some N⟩ := by
  unfold store
  simp only [hN]
  cases body.total url <;> rfl

end PageCache

/-! ## §2. Views. -/

/-- What there is to see of a page: the entry under every key, or the
reason why the page cannot be had. -/
abbrev PageView := Except FetchError (String → Option Entry)

namespace Search

/-- What there is to see of a response. -/
def viewOf (r : Except FetchError Page) : PageView := r.map entryAt?

/-- **Store and transport show the same view** of the pages of a domain,
and will go on doing so. -/
structure Shows (t : Transport) (book : Matchbook) (dom : Int64 → Prop) (view : Int64 → PageView)
    (s : Search) : Prop where
  /-- What is stored agrees with the view. -/
  stored : ∀ p, dom p → ∀ body, s.cache.page? p = some body → view p = .ok (entryAt? body)
  /-- What is not stored would arrive as in the view, whenever it is requested. -/
  served : ∀ p, dom p → s.cache.contains p = false → ∀ log,
    viewOf (Transport.pageOf (s.query.urlFor book p) (t.answer log (s.query.urlFor book p)))
      = view p

/-- The record that a view has in a slot, for pages of `k` records and
`N` records in all. -/
def recordIn (view : Int64 → PageView) (k N : UInt64) (slot : Slot) : Except QueryError Entry :=
  match view slot.page with
  | .error e => .error (.fetch e)
  | .ok find =>
      match find (slot.key k N) with
      | some entry => .ok entry
      | none => .error (.missingRecord (slot.key k N) slot.page)

/-- What a view has in a slot is a record, or lacking. -/
theorem recordIn_ne_overflow (view : Int64 → PageView) (k N : UInt64) (slot : Slot) :
    recordIn view k N slot ≠ .error .overflow := by
  unfold recordIn
  split
  · simp
  · split <;> simp

/-- **What one look at a page leaves behind**: the page is in the store
afterwards if it can be had, and it was requested if it was not there. -/
structure TookPage (book : Matchbook) (view : Int64 → PageView) (p : Int64)
    (s s' : Search) : Prop where
  query_eq : s'.query = s.query
  total_eq : s'.cache.total = s.cache.total
  log_eq : s'.log = if s.cache.contains p then s.log else s.log ++ [s.query.urlFor book p]
  contains_iff : ∀ p', s'.cache.contains p' = true
    ↔ s.cache.contains p' = true ∨ (p' = p ∧ ∃ find, view p = .ok find)

variable {t : Transport} {book : Matchbook} {dom : Int64 → Prop} {view : Int64 → PageView}
  {s : Search} {N : UInt64}

/-- The record is read off the store as the view has it. -/
theorem stored_eq {slot : Slot} {body : Page} (hbody : s.cache.page? slot.page = some body)
    (hview : view slot.page = .ok (entryAt? body)) (hN : s.cache.total = some N) :
    s.stored slot = recordIn view s.query.pageSize N slot := by
  unfold Search.stored recordIn
  rw [hN, hview, hbody]
  cases hfind : entryAt? body (slot.key s.query.pageSize N) with
  | none => simp [hfind]
  | some entry => simp [hfind]

/-- The search after a page was requested, arrived and was stored. -/
def received (book : Matchbook) (p : Int64) (body : Page) (N : UInt64) (s : Search) : Search :=
  { s.asked book p with cache := ⟨Assoc.put p body s.cache.pages, some N⟩ }

/-- A page requested with the total known is stored as it comes. -/
theorem fetchPage_known {p : Int64} {body : Page} (h : s.query.stage = .final book)
    (hN : s.cache.total = some N) (hanswer : s.answer t book p = .ok body) :
    s.fetchPage t p = (.ok (), s.received book p body N) := by
  rw [fetchPage_answered h hanswer]
  exact storePage_ok (s := s.asked book p) (PageCache.store_known hN _ _ _)

section RecordAt

variable {position : UInt64} {slot : Slot}

/-- Where the slot cannot be worked out nothing is looked up. -/
theorem recordAt_unlocated
    (hslot : Slot.locate? position s.query.pageSize s.query.direction = none) :
    s.recordAt t position = (.error .overflow, s) := by
  unfold recordAt
  simp only [hslot]

/-- A page that is in the store is looked up there. -/
theorem recordAt_stored
    (hslot : Slot.locate? position s.query.pageSize s.query.direction = some slot)
    (hc : s.cache.contains slot.page = true) :
    s.recordAt t position = (s.stored slot, s) := by
  unfold recordAt
  simp only [hslot, hc, if_true]

/-- A page that is not in the store is requested, and may not arrive. -/
theorem recordAt_missed {e : FetchError} (h : s.query.stage = .final book)
    (hslot : Slot.locate? position s.query.pageSize s.query.direction = some slot)
    (hc : s.cache.contains slot.page = false) (hanswer : s.answer t book slot.page = .error e) :
    s.recordAt t position = (.error (.fetch e), s.asked book slot.page) := by
  unfold recordAt
  simp only [hslot, hc, Bool.false_eq_true, if_false, fetchPage_missed h hanswer]

/-- A page that is not in the store is requested, and looked up when it is. -/
theorem recordAt_received {body : Page} (h : s.query.stage = .final book)
    (hN : s.cache.total = some N)
    (hslot : Slot.locate? position s.query.pageSize s.query.direction = some slot)
    (hc : s.cache.contains slot.page = false) (hanswer : s.answer t book slot.page = .ok body) :
    s.recordAt t position
      = ((s.received book slot.page body N).stored slot, s.received book slot.page body N) := by
  unfold recordAt
  simp only [hslot, hc, Bool.false_eq_true, if_false, fetchPage_known h hN hanswer]

end RecordAt

/-! ## §3. How the number of records is learned. -/

theorem length_unanswered {e : FetchError} (h : s.query.stage = .final book)
    (hN : s.cache.total = none) (hanswer : s.answer t book book.direction.sign = .error e) :
    s.length t = (.error (.fetch e), s.asked book book.direction.sign) :=
  length_failed h hN (fetchPage_missed h hanswer)

theorem length_untold {body : Page} {e : FetchError} (h : s.query.stage = .final book)
    (hN : s.cache.total = none) (hanswer : s.answer t book book.direction.sign = .ok body)
    (htotal : body.total (s.query.urlFor book book.direction.sign) = .error e) :
    s.length t = (.error (.fetch e), s.asked book book.direction.sign) := by
  apply length_failed h hN
  rw [fetchPage_answered h hanswer]
  apply storePage_error (s := s.asked book book.direction.sign)
  show s.cache.store _ body _ = _
  rw [PageCache.store_unknown hN, htotal]
  rfl

/-- **The total learned** from the first page. -/
theorem length_told {body : Page} (h : s.query.stage = .final book) (hN : s.cache.total = none)
    (hanswer : s.answer t book book.direction.sign = .ok body)
    (htotal : body.total (s.query.urlFor book book.direction.sign) = .ok N) :
    s.length t = (.ok N, s.received book book.direction.sign body N) := by
  apply length_fetched h hN _ rfl
  rw [fetchPage_answered h hanswer]
  apply storePage_ok (s := s.asked book book.direction.sign)
  show s.cache.store _ body _ = _
  rw [PageCache.store_unknown hN, htotal]
  rfl

theorem contains_received {p p' : Int64} {body : Page} :
    (s.received book p body N).cache.contains p' = true
      ↔ s.cache.contains p' = true ∨ p' = p :=
  PageCache.contains_put

/-! ## §4. What a look at a page leaves behind. -/

theorem tookPage_stored {p : Int64} (hc : s.cache.contains p = true) : TookPage book view p s s where
  query_eq := rfl
  total_eq := rfl
  log_eq := by rw [if_pos hc]
  contains_iff := by
    intro p'
    constructor
    · exact Or.inl
    · rintro (hp | ⟨rfl, -⟩)
      · exact hp
      · exact hc

theorem tookPage_asked {p : Int64} {e : FetchError} (hc : s.cache.contains p = false)
    (hview : view p = .error e) : TookPage book view p s (s.asked book p) where
  query_eq := rfl
  total_eq := rfl
  log_eq := by
    rw [hc]
    rfl
  contains_iff := by
    intro p'
    rw [hview]
    simp

theorem tookPage_received {p : Int64} {body : Page} (hN : s.cache.total = some N)
    (hc : s.cache.contains p = false) (hview : view p = .ok (entryAt? body)) :
    TookPage book view p s (s.received book p body N) where
  query_eq := rfl
  total_eq := hN.symm
  log_eq := by
    rw [hc]
    rfl
  contains_iff := by
    intro p'
    rw [contains_received, hview]
    simp

/-- A page stored as the view has it keeps store and transport in line. -/
theorem Shows.received (hs : s.Shows t book dom view) {p : Int64} {body : Page}
    (hview : view p = .ok (entryAt? body)) :
    (s.received book p body N).Shows t book dom view where
  stored := by
    intro p' hp' body' hbody'
    obtain ⟨rfl, rfl⟩ | hbefore := PageCache.page?_put_cases hbody'
    · exact hview
    · exact hs.stored p' hp' body' hbefore
  served := by
    intro p' hp' hnot log
    apply hs.served p' hp'
    by_contra hyes
    rw [Bool.not_eq_false] at hyes
    rw [contains_received.mpr (Or.inl hyes)] at hnot
    exact absurd hnot (by decide)

/-! ## §5. Reading under a view. -/

/-- **Reading a record**: the answer is the view's, wherever the page was. -/
theorem recordAt_shown (h : s.query.stage = .final book) (hN : s.cache.total = some N)
    (hs : s.Shows t book dom view) {position : UInt64} {slot : Slot}
    (hslot : Slot.locate? position s.query.pageSize book.direction = some slot)
    (hdom : dom slot.page) :
    ∃ s', s.recordAt t position = (recordIn view s.query.pageSize N slot, s')
      ∧ TookPage book view slot.page s s' ∧ s'.Shows t book dom view := by
  have hdir : s.query.direction = book.direction :=
    Query.direction_eq (Query.matchbook_of_final h)
  rw [← hdir] at hslot
  cases hc : s.cache.contains slot.page with
  | true =>
      -- The page is in the store, which agrees with the view.
      obtain ⟨body, hbody⟩ := PageCache.contains_iff.mp hc
      have hview := hs.stored slot.page hdom body hbody
      refine ⟨s, ?_, tookPage_stored hc, hs⟩
      rw [recordAt_stored hslot hc, stored_eq hbody hview hN]
  | false =>
      -- The page is requested, and arrives as in the view or not at all.
      have hview : viewOf (s.answer t book slot.page) = view slot.page :=
        hs.served slot.page hdom hc s.log
      cases ha : s.answer t book slot.page with
      | error e =>
          rw [ha] at hview
          refine ⟨s.asked book slot.page, ?_, tookPage_asked hc hview.symm,
            ⟨hs.stored, hs.served⟩⟩
          rw [recordAt_missed h hslot hc ha]
          unfold recordIn
          rw [← hview]
          rfl
      | ok body =>
          rw [ha] at hview
          refine ⟨s.received book slot.page body N, ?_, tookPage_received hN hc hview.symm,
            hs.received hview.symm⟩
          rw [recordAt_received h hN hslot hc ha,
            stored_eq (N := N) PageCache.page?_put_self hview.symm rfl]
          rfl

/-- **A step of the walk** under a view. -/
theorem next_shown (h : s.query.stage = .final book) (hN : s.cache.total = some N)
    (hs : s.Shows t book dom view) (hc : s.query.cursor.isExhausted N = false) {slot : Slot}
    (hslot : Slot.locate? s.query.cursor.position s.query.pageSize book.direction = some slot)
    (hdom : dom slot.page) :
    ∃ s', s.next t = (some (s'.goOn (recordIn view s.query.pageSize N slot)).1,
          (s'.goOn (recordIn view s.query.pageSize N slot)).2)
      ∧ TookPage book view slot.page s s' ∧ s'.Shows t book dom view := by
  obtain ⟨s', hrec, htook, hs'⟩ := recordAt_shown h hN hs hslot hdom
  refine ⟨s', ?_, htook, hs'⟩
  rw [next_known h hN, hc, hrec]
  simp only [Bool.false_eq_true, if_false]

/-- **A step for which there is no slot** leaves everything as it was. -/
theorem next_unlocated (h : s.query.stage = .final book) (hN : s.cache.total = some N)
    (hc : s.query.cursor.isExhausted N = false)
    (hslot : Slot.locate? s.query.cursor.position s.query.pageSize book.direction = none) :
    s.next t = (some (.error .overflow), s) := by
  rw [← Query.direction_eq (Query.matchbook_of_final h)] at hslot
  rw [next_known h hN, hc, recordAt_unlocated hslot]
  rfl

end Search

end MaterialSearch
