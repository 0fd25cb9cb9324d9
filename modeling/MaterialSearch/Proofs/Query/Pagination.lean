/-
  MaterialSearch.Proofs.Query.Pagination
  ────────────────────────────────
  **FAITHFUL TRANSPORTS.**

  A faithful transport serves `N` records in pages of `k`: behind the
  address of the `n`-th page are the records of the ranks from
  `(n - 1)·k + 1` to `n·k`, as far as there are so many, each under its
  plain key.  The order of the keys is left open, and it may change from
  request to request.  A fresh query over such a transport reads every
  record that it is asked for, and requests no page twice.

  Main definitions:
    * `FaithfulPage`        — a page with the records of its ranks
    * `Transport.Faithful`  — such a page behind every address that matters

  Main results:
    * `length_faithful`     — the first page tells the number of records
    * `nexts_slice_eq_records` — what a copy reads and what it requests
-/
import MaterialSearch.Proofs.Page.RecordKey
import MaterialSearch.Proofs.Query.Pass

namespace MaterialSearch

open Keyword Numeric

/-! ## §1. Faithful pages. -/

/-- The ranks of the records on the `n`-th page. -/
def OnPage (k N n i : Nat) : Prop := (n - 1) * k < i ∧ i ≤ min (n * k) N

/-- The plain key of a rank. -/
def plainKey (i N : Nat) : String := toString i ++ " of " ++ toString N

/-- **The `n`-th page as it should be**: the records of its ranks under
their plain keys, and nothing else. -/
structure FaithfulPage (k N : Nat) (record : Nat → Members) (n : Nat) (page : Page) : Prop where
  keys : ∀ key, key ∈ page.map Prod.fst ↔ ∃ i, OnPage k N n i ∧ key = plainKey i N
  records : ∀ i, OnPage k N n i → page.lookup (plainKey i N) = some (.obj (record i))

section FaithfulPage

variable {k N n : Nat} {record : Nat → Members} {page page' : Page}

/-- The record of a position is on the page of that position. -/
theorem onPage_of_position {p : Nat} (hk : 0 < k) (h : p < N) : OnPage k N (p / k + 1) (p + 1) := by
  have hdiv : p / k * k ≤ p := Nat.div_mul_le_self p k
  have hlt : p < (p / k + 1) * k := by
    rw [← Nat.div_lt_iff_lt_mul hk]
    omega
  constructor
  · show p / k * k < p + 1
    omega
  · rw [Nat.le_min]
    exact ⟨hlt, h⟩

theorem FaithfulPage.entryAt_rank (h : FaithfulPage k N record n page) {i : Nat}
    (hi : OnPage k N n i) :
    Search.entryAt? page (plainKey i N) = some (Entry.ofRecord (record i)) := by
  unfold Search.entryAt?
  rw [h.records i hi]

theorem FaithfulPage.entryAt_foreign (h : FaithfulPage k N record n page) {key : String}
    (hkey : ¬∃ i, OnPage k N n i ∧ key = plainKey i N) : Search.entryAt? page key = none := by
  have hnot : page.lookup key = none := by
    rw [List.lookup_eq_none_iff]
    intro m hm
    rw [bne_iff_ne]
    intro heq
    apply hkey
    rw [← h.keys, heq]
    exact List.mem_map_of_mem hm
  unfold Search.entryAt?
  rw [hnot]

/-- There is one way only to show the `n`-th page. -/
theorem FaithfulPage.entryAt_eq (h : FaithfulPage k N record n page)
    (h' : FaithfulPage k N record n page') : Search.entryAt? page = Search.entryAt? page' := by
  funext key
  by_cases hkey : ∃ i, OnPage k N n i ∧ key = plainKey i N
  · obtain ⟨i, hi, rfl⟩ := hkey
    rw [h.entryAt_rank hi, h'.entryAt_rank hi]
  · rw [h.entryAt_foreign hkey, h'.entryAt_foreign hkey]

/-- **The first page tells the number of records**, also when there are none. -/
theorem FaithfulPage.total_first {N : UInt64} (hk : 0 < k)
    (h : FaithfulPage k N.toNat record 1 page) (url : String) : page.total url = .ok N := by
  by_cases hne : page = []
  · subst hne
    -- The first record would be on the page.
    have hzero : N.toNat = 0 := by
      by_contra hpos
      have hfirst : OnPage k N.toNat 1 1 := ⟨by omega, by rw [Nat.le_min]; omega⟩
      have hnil : plainKey 1 N.toNat ∈ ([] : Page).map Prod.fst :=
        (h.keys _).mpr ⟨1, hfirst, rfl⟩
      exact absurd hnil List.not_mem_nil
    show Except.ok 0 = Except.ok N
    rw [← UInt64.toNat_inj.mp (show N.toNat = (0 : UInt64).toNat from hzero)]
  · apply total_of_plainKeys url hne
    intro m hm
    obtain ⟨i, hi, hkey⟩ := (h.keys m.1).mp (List.mem_map_of_mem hm)
    have hle : i ≤ N.toNat := hi.2.trans (Nat.min_le_right _ _)
    have hlt := N.toNat_lt
    refine ⟨UInt64.ofNat i, ?_⟩
    unfold recordKey
    rw [hkey, UInt64.toNat_ofNat_of_lt' (show i < 2 ^ 64 by omega)]
    rfl

end FaithfulPage

/-! ## §2. Faithful transports. -/

/-- **A transport that serves `N` records** to a query: behind the address
of the first page and of every page that holds a record is that page,
whatever was requested before. -/
def Transport.Faithful (t : Transport) (q : Query) (book : Matchbook) (N : Nat)
    (record : Nat → Members) : Prop :=
  ∀ n, 0 < n → n = 1 ∨ (n - 1) * q.pageSize.toNat < N → ∀ log,
    ∃ page, Transport.pageOf (q.urlFor book (book.direction.page n))
        (t.answer log (q.urlFor book (book.direction.page n))) = .ok page
      ∧ FaithfulPage q.pageSize.toNat N record n page

/-- The view of the pages that a transport has for the first request. -/
def Transport.view (t : Transport) (q : Query) (book : Matchbook) (n : Nat) : PageView :=
  Search.viewOf (Transport.pageOf (q.urlFor book (book.direction.page n))
    (t.answer [] (q.urlFor book (book.direction.page n))))

section Faithful

variable {t : Transport} {q : Query} {book : Matchbook} {N : UInt64} {record : Nat → Members}
  {s : Search}

/-- What a faithful transport shows does not change. -/
theorem Transport.Faithful.viewOf_eq (h : t.Faithful q book N.toNat record) {n : Nat} (hn : 0 < n)
    (hrecord : n = 1 ∨ (n - 1) * q.pageSize.toNat < N.toNat) (log : RequestLog) :
    Search.viewOf (Transport.pageOf (q.urlFor book (book.direction.page n))
      (t.answer log (q.urlFor book (book.direction.page n)))) = t.view q book n := by
  obtain ⟨page, hpage, hfaithful⟩ := h n hn hrecord log
  obtain ⟨page', hpage', hfaithful'⟩ := h n hn hrecord []
  unfold Transport.view
  rw [hpage, hpage']
  show Except.ok (Search.entryAt? page) = Except.ok (Search.entryAt? page')
  rw [hfaithful.entryAt_eq hfaithful']

/-- The item at a position is the record of the next rank. -/
theorem Transport.Faithful.entryIn_eq (h : t.Faithful q book N.toNat record) {p : Nat}
    (hp : p < N.toNat) :
    ∃ find, t.view q book (p / q.pageSize.toNat + 1) = .ok find
      ∧ entryIn find book.direction q.pageSize.toNat p N
        = .ok (Entry.ofRecord (record (p + 1))) := by
  have hholds : p / q.pageSize.toNat * q.pageSize.toNat < N.toNat :=
    Nat.lt_of_le_of_lt (Nat.div_mul_le_self p _) hp
  obtain ⟨page, hpage, hfaithful⟩ :=
    h (p / q.pageSize.toNat + 1) (Nat.succ_pos _) (Or.inr hholds) []
  refine ⟨Search.entryAt? page, ?_, ?_⟩
  · unfold Transport.view
    rw [hpage]
    rfl
  · have hentry : Search.entryAt? page (toString (p + 1) ++ " of " ++ toString N.toNat) = _ :=
      hfaithful.entryAt_rank (onPage_of_position q.pageSize_pos hp)
    unfold entryIn
    rw [hentry]

/-- **Every visited position gives the record of the next rank.** -/
theorem Transport.Faithful.items_eq (h : t.Faithful q book N.toNat record) {visited : List Nat}
    (hvisited : ∀ p ∈ visited, p < N.toNat) :
    items (t.view q book) book.direction q.pageSize.toNat N visited
      = visited.map fun p => .ok (Entry.ofRecord (record (p + 1))) := by
  unfold items
  rw [← List.filterMap_eq_map]
  apply List.filterMap_congr
  intro p hp
  obtain ⟨find, hview, hentry⟩ := h.entryIn_eq (hvisited p hp)
  unfold itemAt
  rw [hview]
  show some (entryIn find book.direction q.pageSize.toNat p N) = _
  rw [hentry]
  rfl

/-! ## §3. The first page. -/

/-- A store without pages goes with any view that the transport has. -/
theorem Transport.Faithful.shows (h : t.Faithful s.query book N.toNat record)
    (hpages : s.cache.pages = []) (hsmall : N.toNat < 2 ^ 63) :
    s.Shows t book (HoldsRecord book.direction s.query.pageSize.toNat N.toNat)
      fun p => t.view s.query book p.toInt.natAbs := by
  constructor
  · intro p _ body hbody
    have hnot := PageCache.not_contains_empty hpages p
    rw [PageCache.contains_of_page? hbody] at hnot
    exact absurd hnot (by decide)
  · intro p hp _ log
    obtain ⟨n, hn, hlt, rfl⟩ := hp
    have hle := Nat.le_mul_of_pos_right (n - 1) s.query.pageSize_pos
    rw [page_natAbs _ (by omega)]
    exact h.viewOf_eq hn (Or.inr hlt) log

/-- **The number of records** is told by the first page, which is in the
store from then on. -/
theorem length_faithful (h : t.Faithful s.query book N.toNat record)
    (hfinal : s.query.stage = .final book) (hcache : s.cache = .empty)
    (hsmall : N.toNat < 2 ^ 63) :
    ∃ body, s.length t = (.ok N, s.received book book.direction.sign body N)
      ∧ (s.received book book.direction.sign body N).Shows t book
          (HoldsRecord book.direction s.query.pageSize.toNat N.toNat)
          fun p => t.view s.query book p.toInt.natAbs := by
  obtain ⟨body, hbody, hfaithful⟩ := h 1 Nat.one_pos (Or.inl rfl) s.log
  have hview := h.viewOf_eq Nat.one_pos (Or.inl rfl) s.log
  rw [page_one] at hbody hview
  rw [hbody] at hview
  have hanswer : s.answer t book book.direction.sign = .ok body := hbody
  have hsign : (book.direction.sign).toInt.natAbs = 1 := by
    rw [← page_one, page_natAbs _ (by decide)]
  refine ⟨body, ?_, ?_⟩
  · exact Search.length_told hfinal (by rw [hcache]; rfl) hanswer
      (hfaithful.total_first s.query.pageSize_pos _)
  · apply Search.Shows.received (h.shows (by rw [hcache]; rfl) hsmall)
    show t.view s.query book (book.direction.sign).toInt.natAbs = _
    rw [hsign]
    exact hview.symm

/-! ## §4. Walks over a fresh query. -/

/-- The answers that give the records of some positions, and then nothing. -/
def recordsThenNone (record : Nat → Members) (visited : List Nat) (n : Nat) :
    List (Option (Except QueryError Entry)) :=
  (visited.map fun p => some (.ok (Entry.ofRecord (record (p + 1))))) ++ List.replicate n none

/-- **What a walk requests from a fresh query on**: the first page, and then
in ascending order, once each, the other pages of visited positions. -/
def RequestedAfterFirst (book : Matchbook) (visited : List Nat) (s s' : Search) : Prop :=
  ∃ pages : List Nat, pages.Pairwise (· < ·)
    ∧ (∀ n, n ∈ pages ↔ (∃ p ∈ visited, p / s.query.pageSize.toNat + 1 = n) ∧ n ≠ 1)
    ∧ s'.log = s.log ++ (1 :: pages).map fun n => s.query.urlFor book (book.direction.page n)

/-- The walk as it is once the first page has told the number of records. -/
theorem Pass.first (h : t.Faithful s.query book N.toNat record)
    (hfinal : s.query.stage = .final book) (hcache : s.cache = .empty)
    (hsmall : N.toNat < 2 ^ 63) (hrun : s.query.cursor.halted = false)
    (hstep : 0 < s.query.cursor.step.toNat)
    (hmax : s.query.cursor.isExhausted maxCount = false) :
    ∃ body, s.next t = (s.received book book.direction.sign body N).next t
      ∧ Pass t book N (t.view s.query book) (s.received book book.direction.sign body N) := by
  obtain ⟨body, hlen, hshows⟩ := length_faithful h hfinal hcache hsmall
  refine ⟨body, Search.next_unknown hlen hfinal rfl hmax, ?_⟩
  exact ⟨hfinal, rfl, hsmall, hrun, hstep, hshows⟩

/-- The pages that are requested after the first are those that it is not. -/
theorem requestedAfterFirst_of_once {body : Page} {visited : List Nat} {s' : Search}
    (hcache : s.cache = .empty) (hsmall : ∀ p ∈ visited, p + 1 < 2 ^ 63)
    (h : RequestedOnce book visited (s.received book book.direction.sign body N) s') :
    RequestedAfterFirst book visited s s' := by
  obtain ⟨pages, hsorted, hmem, hlog⟩ := h
  refine ⟨pages, hsorted, ?_, ?_⟩
  · intro n
    rw [hmem]
    apply and_congr_right
    intro hvisited
    obtain ⟨p, hp, hn⟩ := hvisited
    have hn : p / s.query.pageSize.toNat + 1 = n := hn
    have hrank := page_le_rank p s.query.pageSize.toNat
    have hfit := hsmall p hp
    have hnot := PageCache.not_contains_empty (show s.cache.pages = [] by rw [hcache]; rfl)
      (book.direction.page n)
    have hpage : book.direction.page n = book.direction.sign ↔ n = 1 := by
      rw [← page_one]
      exact ⟨page_inj _ (by omega) (by omega), congrArg _⟩
    rw [← Bool.not_eq_true, Search.contains_received, hpage, hnot]
    simp
  · rw [hlog, List.map_cons, page_one]
    show s.log ++ [s.query.urlFor book book.direction.sign] ++ _ = _
    rw [List.append_assoc]
    rfl

/-- **A walk over a fresh query**: the records of the visited positions,
each once, then nothing for as many calls as one likes. -/
theorem nexts_fresh (h : t.Faithful s.query book N.toNat record)
    (hfinal : s.query.stage = .final book) (hcache : s.cache = .empty)
    (hsmall : N.toNat < 2 ^ 63) (hrun : s.query.cursor.halted = false)
    (hstep : 0 < s.query.cursor.step.toNat) (m : Nat) :
    ∃ s', s.nexts t ((s.query.cursor.rest N).length + (m + 1))
        = (recordsThenNone record (s.query.cursor.rest N) (m + 1), s')
      ∧ (s.query.cursor.isExhausted maxCount = true → s'.log = s.log)
      ∧ (s.query.cursor.isExhausted maxCount = false →
          RequestedAfterFirst book (s.query.cursor.rest N) s s') := by
  have hbelow : ∀ p ∈ s.query.cursor.rest N, p < N.toNat := by
    intro p hp
    exact Nat.lt_of_lt_of_le (lt_of_mem_visits hstep hp) (visitLimit_le _ _)
  cases hmax : s.query.cursor.isExhausted maxCount with
  | true =>
      -- The range is empty whatever the total, and the total is not asked for.
      have hend : s.query.cursor.rest N = [] := by
        have hN := Cursor.isExhausted_mono (Cursor.le_maxCount N) hmax
        rw [Cursor.isExhausted_eq, hrun, Bool.false_or, decide_eq_true_eq] at hN
        exact (Cursor.rest_eq_nil_iff hstep).mpr hN
      refine ⟨s, ?_, fun _ => rfl, fun hno => absurd hno (by decide)⟩
      rw [hend, List.length_nil, Nat.zero_add, nexts_of_next_none (Search.next_over hmax)]
      rfl
  | false =>
      -- The first page tells the total; from there on it is an ordinary pass.
      obtain ⟨body, hnext, hpass⟩ := Pass.first h hfinal hcache hsmall hrun hstep hmax
      obtain ⟨s', hnexts, hreq⟩ := nexts_pass hpass (m + 1)
      have hitems : items (t.view s.query book) book.direction s.query.pageSize.toNat N
          (s.query.cursor.rest N) = _ := h.items_eq hbelow
      have hanswers : (s.received book book.direction.sign body N).nexts t
          ((items (t.view s.query book) book.direction s.query.pageSize.toNat N
            (s.query.cursor.rest N)).length + (m + 1)) = _ := hnexts
      rw [hitems, List.length_map] at hanswers
      refine ⟨s', ?_, fun hno => absurd hno (by decide), fun _ => ?_⟩
      · rw [← Nat.add_assoc, nexts_congr hnext, Nat.add_assoc, hanswers]
        show ((items (t.view s.query book) book.direction s.query.pageSize.toNat N
          (s.query.cursor.rest N)).map some ++ List.replicate (m + 1) none, s') = _
        rw [hitems, List.map_map]
        rfl
      · apply requestedAfterFirst_of_once hcache _ hreq
        intro p hp
        have := hbelow p hp
        omega

end Faithful

/-! ## §5. Copies and indices of a fresh query. -/

/-- The positions of a copy that has not walked yet. -/
theorem rest_between (start : UInt64) (stop : Option UInt64) (step N : UInt64) :
    (Cursor.between start stop step).rest N
      = visits start.toNat (max step.toNat 1) (visitLimit stop N) := by
  show visits start.toNat (max step 1).toNat (visitLimit stop N) = _
  rw [toNat_max]
  rfl

/-- When a walk asks for nothing, whatever the number of records. -/
theorem isExhausted_between_max (start : UInt64) (stop : Option UInt64) (step : UInt64) :
    (Cursor.between start stop step).isExhausted maxCount = true
      ↔ (∃ limit, stop = some limit ∧ limit ≤ start) ∨ start = maxCount := by
  have hlt := start.toNat_lt
  have hmax := toNat_maxCount
  rw [Cursor.isExhausted_eq]
  show decide (visitLimit stop maxCount ≤ start.toNat) = true ↔ _
  rw [decide_eq_true_eq, ← UInt64.toNat_inj]
  unfold visitLimit
  cases stop with
  | none =>
      simp only [reduceCtorEq, false_and, exists_false, false_or]
      omega
  | some limit =>
      simp only [Option.some.injEq, exists_eq_left', UInt64.le_iff_toNat_le]
      have hlimit := limit.toNat_lt
      omega

section Fresh

variable {t : Transport} {s : Search} {book : Matchbook} {N : UInt64} {record : Nat → Members}

/-- A copy of a fresh query, made for a range and a step. -/
theorem nexts_copied (hfresh : s.cache = .empty) (hsmall : N.toNat < 2 ^ 63)
    (hfaithful : t.Faithful s.query book N.toNat record) (start : UInt64) (stop : Option UInt64)
    (step : UInt64) (m : Nat) :
    ∃ s', (s.copied book (Cursor.between start stop step)).nexts t
        ((visits start.toNat (max step.toNat 1) (visitLimit stop N)).length + (m + 1))
        = (recordsThenNone record (visits start.toNat (max step.toNat 1) (visitLimit stop N))
            (m + 1), s')
      ∧ ((∃ limit, stop = some limit ∧ limit ≤ start) → s'.log = s.log)
      ∧ ((∀ limit, stop = some limit → start < limit) → start ≠ maxCount →
          RequestedAfterFirst book (visits start.toNat (max step.toNat 1) (visitLimit stop N))
            s s') := by
  have hstep : 0 < (max step 1).toNat := by
    have h1 : (1 : UInt64).toNat = 1 := rfl
    rw [toNat_max]
    omega
  have hmax := isExhausted_between_max start stop step
  obtain ⟨s', hnexts, hnone, hsome⟩ := nexts_fresh
    (s := s.copied book (Cursor.between start stop step)) hfaithful rfl hfresh hsmall rfl hstep m
  rw [← rest_between]
  refine ⟨s', hnexts, ?_, ?_⟩
  · intro hempty
    exact hnone (hmax.mpr (Or.inl hempty))
  · intro hstop hstart
    apply hsome
    rw [← Bool.not_eq_true]
    intro hyes
    rcases hmax.mp hyes with hempty | hlast
    · obtain ⟨limit, hlimit, hle⟩ := hempty
      exact absurd (hstop limit hlimit) (UInt64.not_lt.mpr hle)
    · exact hstart hlast

/-- The record at an index of a fresh query. -/
theorem get_fresh (hbook : s.query.matchbook = .ok book) (hfresh : s.cache = .empty)
    (hsmall : N.toNat < 2 ^ 63) (hfaithful : t.Faithful s.query book N.toNat record)
    (index : UInt64) :
    (s.get t index).1 = .ok (if index.toNat < N.toNat
      then some (Entry.ofRecord (record (index.toNat + 1))) else none) := by
  have hvisits : visits index.toNat (max (1 : UInt64).toNat 1) (visitLimit none N)
      = visits index.toNat 1 N.toNat := rfl
  obtain ⟨s', hnexts, -⟩ := nexts_copied hfresh hsmall hfaithful index none 1 0
  rw [hvisits] at hnexts
  have hfirst := head_nexts t (visits index.toNat 1 N.toNat).length
    (s.copied book (Cursor.startingAt index))
  rw [show (s.copied book (Cursor.startingAt index)).nexts t _ = _ from hnexts] at hfirst
  rw [Search.get_ok hbook]
  show Search.indexed ((s.copied book (Cursor.startingAt index)).next t).1 = _
  by_cases hlt : index.toNat < N.toNat
  · rw [visits_eq_cons Nat.one_pos hlt] at hfirst
    injection hfirst with hfirst
    rw [← hfirst, if_pos hlt]
    rfl
  · rw [visits_eq_nil Nat.one_pos (by omega)] at hfirst
    injection hfirst with hfirst
    rw [← hfirst, if_neg hlt]
    rfl

end Fresh

/-- Where a range starts, in numbers. -/
theorem toNat_first (lower : RangeEnd) :
    lower.first.toNat
      = match lower with
        | .unbounded => 0
        | .included first => first.toNat
        | .excluded before => min (before.toNat + 1) (2 ^ 64 - 1) := by
  cases lower with
  | unbounded => rfl
  | included first => rfl
  | excluded before => exact toNat_addCapped before 1

/-- Where a range stops, in numbers. -/
theorem map_toNat_limit (upper : RangeEnd) :
    upper.limit.map UInt64.toNat
      = match upper with
        | .unbounded => none
        | .included last => some (min (last.toNat + 1) (2 ^ 64 - 1))
        | .excluded behind => some behind.toNat := by
  cases upper with
  | unbounded => rfl
  | included last => exact congrArg some (toNat_addCapped last 1)
  | excluded behind => rfl

theorem visitLimit_eq (stop : Option UInt64) (N : UInt64) :
    visitLimit stop N = min ((stop.map UInt64.toNat).getD N.toNat) N.toNat := by
  cases stop with
  | none => exact (Nat.min_self _).symm
  | some stop => rfl

/-- **Lazy pagination is complete and free of duplicates.**  Over a
faithful transport the copy of a fresh query made for a range and a step
gives the record of every position that it visits, in order and once, and
then nothing.  It visits the positions from the start of the range on, a
step apart, before its stop and below the number of records.  A range that
leaves its lower end out starts one behind it, and one that includes its
upper end stops one behind it, at the greatest count at most.  Nothing is
requested for a range that is empty from the outset; otherwise the first
page is requested and then each other page of a visited position, once.  An
index gives the record of that position. -/
theorem nexts_slice_eq_records (t : Transport) (s : Search) (book : Matchbook) (N : UInt64)
    (record : Nat → Members)
    (hbook : s.query.matchbook = .ok book) (hfresh : s.cache = .empty)
    (hsmall : N.toNat < 2 ^ 63) (hfaithful : t.Faithful s.query book N.toNat record) :
    (∀ (lower upper : RangeEnd) (step : UInt64),
      let start : Nat := match lower with
        | .unbounded => 0
        | .included first => first.toNat
        | .excluded before => min (before.toNat + 1) (2 ^ 64 - 1)
      let stop : Option Nat := match upper with
        | .unbounded => none
        | .included last => some (min (last.toNat + 1) (2 ^ 64 - 1))
        | .excluded behind => some behind.toNat
      let visited := visits start (max step.toNat 1) (min (stop.getD N.toNat) N.toNat)
      ∃ copy s₁, s.slice lower upper step = (.ok copy, s₁)
        ∧ ∀ m, ∃ s₂, Search.nexts t (visited.length + (m + 1)) { s₁ with query := copy }
            = (recordsThenNone record visited (m + 1), s₂)
          ∧ ((∃ n, stop = some n ∧ n ≤ start) → s₂.log = s.log)
          ∧ ((∀ n, stop = some n → start < n) → start < 2 ^ 64 - 1 →
              RequestedAfterFirst book visited s s₂))
    ∧ ∀ index : UInt64, (s.get t index).1
        = .ok (if index.toNat < N.toNat then some (Entry.ofRecord (record (index.toNat + 1)))
            else none) := by
  constructor
  · intro lower upper step start stop visited
    -- The ends of the range in numbers are those of the cursor of the copy.
    have hstart : lower.first.toNat = start := toNat_first lower
    have hstop : upper.limit.map UInt64.toNat = stop := map_toNat_limit upper
    have hvisited : visits lower.first.toNat (max step.toNat 1) (visitLimit upper.limit N)
        = visited := by
      rw [hstart, visitLimit_eq, hstop]
    refine ⟨_, _, Search.fork_ok hbook _, ?_⟩
    intro m
    obtain ⟨s₂, hnexts, hnone, hsome⟩ :=
      nexts_copied hfresh hsmall hfaithful lower.first upper.limit step m
    rw [hvisited] at hnexts hsome
    refine ⟨s₂, hnexts, ?_, ?_⟩
    · intro hempty
      obtain ⟨n, hn, hle⟩ := hempty
      rw [← hstop] at hn
      obtain ⟨limit, hlimit, rfl⟩ := Option.map_eq_some_iff.mp hn
      refine hnone ⟨limit, hlimit, ?_⟩
      rw [UInt64.le_iff_toNat_le, hstart]
      exact hle
    · intro hbefore hroom
      apply hsome
      · intro limit hlimit
        rw [UInt64.lt_iff_toNat_lt, hstart]
        exact hbefore _ (by rw [← hstop, hlimit]; rfl)
      · intro hlast
        rw [hlast, toNat_maxCount] at hstart
        omega
  · exact get_fresh hbook hfresh hsmall hfaithful

/-- The second of three records is the only one that tells something. -/
def Sample.threeRecord (i : Nat) : Members := if i = 2 then [("compound", .str "B")] else []

/-- A transport that serves the three records in pages of two. -/
def Sample.threeRecords : Transport :=
  Canned.transport
    { Canned.empty with
      pages :=
        [(1, "\x7b\"1 of 3\":\x7b\x7d,\"2 of 3\":\x7b\"compound\":\"B\"\x7d\x7d"),
          (2, "\x7b\"3 of 3\":\x7b\x7d\x7d")] }

/-- A new query for pages of two. -/
def Sample.inPairs : Search := Search.start { Config.standard with batchSize := 2 }

theorem Sample.threeRecords_faithful :
    Sample.threeRecords.Faithful Sample.inPairs.query ⟨none, .ascending, [], [], []⟩ 3
      Sample.threeRecord := by
  intro n hn hrecord log
  have hsteady : Sample.threeRecords.Steady := Canned.transport_steady _
  rw [hsteady log []]
  have hrecord : n = 1 ∨ (n - 1) * 2 < 3 := hrecord
  have hcases : n = 1 ∨ n = 2 := by omega
  rcases hcases with rfl | rfl
  · refine ⟨[("1 of 3", .obj []), ("2 of 3", .obj [("compound", .str "B")])], by decide +kernel, ?_, ?_⟩
    · intro key
      constructor
      · intro hkey
        rcases List.mem_cons.mp hkey with rfl | hkey
        · exact ⟨1, ⟨by decide, by decide⟩, by decide⟩
        · rw [List.mem_singleton.mp hkey]
          exact ⟨2, ⟨by decide, by decide⟩, by decide⟩
      · intro hkey
        obtain ⟨i, ⟨hlo, hhi⟩, rfl⟩ := hkey
        have hlo : 0 * 2 < i := hlo
        have hhi : i ≤ 2 := hhi
        have hcases : i = 1 ∨ i = 2 := by omega
        rcases hcases with rfl | rfl <;> decide
    · intro i hi
      obtain ⟨hlo, hhi⟩ := hi
      have hlo : 0 * 2 < i := hlo
      have hhi : i ≤ 2 := hhi
      have hcases : i = 1 ∨ i = 2 := by omega
      rcases hcases with rfl | rfl <;> rfl
  · refine ⟨[("3 of 3", .obj [])], by decide +kernel, ?_, ?_⟩
    · intro key
      constructor
      · intro hkey
        rw [List.mem_singleton.mp hkey]
        exact ⟨3, ⟨by decide, by decide⟩, by decide⟩
      · intro hkey
        obtain ⟨i, ⟨hlo, hhi⟩, rfl⟩ := hkey
        have hlo : 1 * 2 < i := hlo
        have hhi : i ≤ 3 := hhi
        have hlast : i = 3 := by omega
        subst hlast
        decide
    · intro i hi
      obtain ⟨hlo, hhi⟩ := hi
      have hlo : 1 * 2 < i := hlo
      have hhi : i ≤ 3 := hhi
      have hlast : i = 3 := by omega
      subst hlast
      rfl

/-- The positions after the first up to the second, that is the second one
alone; no position at all; and a single index. -/
theorem nexts_slice_eq_records_threeRecords :
    (∃ copy s₁, Sample.inPairs.slice (.excluded 0) (.included 1) 0 = (.ok copy, s₁)
      ∧ ∃ s₂, Search.nexts Sample.threeRecords 2 { s₁ with query := copy }
          = ([some (.ok (Entry.ofRecord [("compound", .str "B")])), none], s₂)
        ∧ RequestedAfterFirst ⟨none, .ascending, [], [], []⟩ [1] Sample.inPairs s₂)
    ∧ (∃ copy s₁, Sample.inPairs.slice (.included 2) (.excluded 2) 1 = (.ok copy, s₁)
      ∧ ∃ s₂, Search.nexts Sample.threeRecords 1 { s₁ with query := copy } = ([none], s₂)
        ∧ s₂.log = [])
    ∧ (Sample.inPairs.get Sample.threeRecords 1).1
        = .ok (some (Entry.ofRecord [("compound", .str "B")])) := by
  obtain ⟨hslice, hget⟩ := nexts_slice_eq_records Sample.threeRecords Sample.inPairs
    ⟨none, .ascending, [], [], []⟩ 3 Sample.threeRecord rfl rfl (by decide)
    Sample.threeRecords_faithful
  refine ⟨?_, ?_, hget 1⟩
  · obtain ⟨copy, s₁, hcopy, hwalk⟩ := hslice (.excluded 0) (.included 1) 0
    obtain ⟨s₂, hnexts, -, hlog⟩ := hwalk 0
    refine ⟨copy, s₁, hcopy, s₂, hnexts, hlog ?_ (by decide)⟩
    intro n hn
    obtain rfl : min (1 + 1) (2 ^ 64 - 1) = n := Option.some.inj hn
    decide
  · obtain ⟨copy, s₁, hcopy, hwalk⟩ := hslice (.included 2) (.excluded 2) 1
    obtain ⟨s₂, hnexts, hlog, -⟩ := hwalk 0
    exact ⟨copy, s₁, hcopy, s₂, hnexts, hlog ⟨2, rfl, Nat.le_refl 2⟩⟩

end MaterialSearch
