/-
  MaterialSearch.Proofs.Query.Pass
  ────────────────────────────────
  **ONE PASS OVER A RESULT.**

  A pass calls `next` from the start of a cursor until it says that
  nothing is left.  Its answers are the items of the positions to visit, in
  order, and every page that was not in the store is requested once.

  Main definitions:
    * `Search.nexts`  — the answers of so many calls of `next`
    * `Pass`          — a walk in progress under a view of the pages
    * `Pass.Step`     — what one call of `next` does to it
    * `RequestedOnce` — what is requested along the way

  Main results:
    * `Pass.step`               — one step of a walk
    * `nexts_pass`              — the answers and requests of the rest of a walk
    * `nexts_rewind_eq_items`   — a full pass with pages that fail
-/
import MaterialSearch.Proofs.Query.Items
import MaterialSearch.Proofs.Query.Overflow
import MaterialSearch.Transport.Canned

namespace MaterialSearch

open Keyword

/-! ## §1. Calls of `next`. -/

/-- **The answers of `n` calls of `next`**, and the search after them. -/
def Search.nexts (t : Transport) : Nat → Search → List (Option (Except QueryError Entry)) × Search
  | 0, s => ([], s)
  | n + 1, s =>
      match s.next t with
      | (answer, s) =>
          match nexts t n s with
          | (answers, s) => (answer :: answers, s)

theorem nexts_succ {t : Transport} {s s₁ s₂ : Search} {n : Nat}
    {a : Option (Except QueryError Entry)} {as : List (Option (Except QueryError Entry))}
    (h₁ : s.next t = (a, s₁)) (h₂ : s₁.nexts t n = (as, s₂)) :
    s.nexts t (n + 1) = (a :: as, s₂) := by
  unfold Search.nexts
  rw [h₁]
  simp only [h₂]

/-- The first of the answers is that of one call. -/
theorem head_nexts (t : Transport) (n : Nat) (s : Search) :
    (s.nexts t (n + 1)).1.head? = some (s.next t).1 := by
  unfold Search.nexts
  rfl

theorem nexts_congr {t : Transport} {s s' : Search} (h : s.next t = s'.next t) (n : Nat) :
    s.nexts t (n + 1) = s'.nexts t (n + 1) := by
  unfold Search.nexts
  rw [h]

/-- A search that is not changed by a call that finds nothing finds nothing
ever after. -/
theorem nexts_of_next_none {t : Transport} {s : Search} (h : s.next t = (none, s)) (n : Nat) :
    s.nexts t n = (List.replicate n none, s) := by
  induction n with
  | zero => rfl
  | succ n ih =>
      rw [nexts_succ h ih]
      rfl

/-! ## §2. A walk in progress. -/

/-- The pages that hold a record: the first of `N` records per `k`. -/
def HoldsRecord (d : Direction) (k N : Nat) (p : Int64) : Prop :=
  ∃ n, 0 < n ∧ (n - 1) * k < N ∧ p = d.page n

/-- **A walk in progress**: the number of records is known, the cursor goes
on, and the pages are as in a view of them by their place in the result. -/
structure Pass (t : Transport) (book : Matchbook) (N : UInt64) (view : Nat → PageView)
    (s : Search) : Prop where
  final : s.query.stage = .final book
  total : s.cache.total = some N
  small : N.toNat < 2 ^ 63
  running : s.query.cursor.halted = false
  step_pos : 0 < s.query.cursor.step.toNat
  shows : s.Shows t book (HoldsRecord book.direction s.query.pageSize.toNat N.toNat)
    fun p => view p.toInt.natAbs

/-- **What is requested** from `s` to `s'`: in ascending order, and once
each, the pages of visited positions that are not in the store. -/
def RequestedOnce (book : Matchbook) (visited : List Nat) (s s' : Search) : Prop :=
  ∃ pages : List Nat, pages.Pairwise (· < ·)
    ∧ (∀ n, n ∈ pages ↔ (∃ p ∈ visited, p / s.query.pageSize.toNat + 1 = n)
        ∧ s.cache.contains (book.direction.page n) = false)
    ∧ s'.log = s.log ++ pages.map fun n => s.query.urlFor book (book.direction.page n)

/-- A position is on a page whose number is no more than its rank. -/
theorem page_le_rank (p k : Nat) : p / k + 1 ≤ p + 1 := Nat.succ_le_succ (Nat.div_le_self p k)

theorem holdsRecord_page {d : Direction} {k N p : Nat} (h : p < N) :
    HoldsRecord d k N (d.page (p / k + 1)) := by
  refine ⟨p / k + 1, Nat.succ_pos _, ?_, rfl⟩
  show p / k * k < N
  exact Nat.lt_of_le_of_lt (Nat.div_mul_le_self p k) h

/-- Behind a page are the later positions that are not on it. -/
theorem filter_pageEnd {k p : Nat} {ps : List Nat} (hk : 0 < k) (hps : ∀ q ∈ ps, p < q) :
    (p :: ps).filter (fun q => decide ((p / k + 1) * k ≤ q))
      = ps.filter fun q => decide (q / k ≠ p / k) := by
  have hp : ¬(p / k + 1) * k ≤ p := by
    rw [← Nat.le_div_iff_mul_le hk]
    omega
  rw [List.filter_cons_of_neg (by rw [decide_eq_true_eq]; exact hp)]
  apply List.filter_congr
  intro q hq
  have hle : p / k ≤ q / k := Nat.div_le_div_right (hps q hq).le
  rw [decide_eq_decide, ← Nat.le_div_iff_mul_le hk]
  omega

/-- The record in the slot of a position is the item of the view. -/
theorem recordIn_locate {view : Nat → PageView} {d : Direction} {position k N : UInt64}
    (hk : 0 < k.toNat) (h : position.toNat < N.toNat) (hN : N.toNat < 2 ^ 63) :
    Search.recordIn (fun p => view p.toInt.natAbs) k N (Slot.locate position k d)
      = match view (position.toNat / k.toNat + 1) with
        | .error e => .error (.fetch e)
        | .ok find => entryIn find d k.toNat position.toNat N := by
  have hrank := page_le_rank position.toNat k.toNat
  have hpage := locate_page d hk (show position.toNat / k.toNat + 1 < 2 ^ 64 by omega)
  have hkey : (Slot.locate position k d).key k N
      = toString (position.toNat + 1) ++ " of " ++ toString N.toNat := by
    show toString ((Slot.locate position k d).rank k).toNat ++ " of " ++ toString N.toNat = _
    rw [rank_locate d hk (by omega)]
  unfold Search.recordIn
  simp only [hpage, hkey, page_natAbs d (show position.toNat / k.toNat + 1 < 2 ^ 63 by omega)]
  rfl

section Walk

variable {t : Transport} {book : Matchbook} {N : UInt64} {view : Nat → PageView} {s : Search}

/-- A walk without positions left finds nothing and does nothing. -/
theorem Pass.next_end (h : Pass t book N view s) (hend : s.query.cursor.rest N = []) :
    s.next t = (none, s) := by
  have hlim := (Cursor.rest_eq_nil_iff h.step_pos).mp hend
  have hex : s.query.cursor.isExhausted N = true := by
    rw [Cursor.isExhausted_eq, h.running, Bool.false_or, decide_eq_true hlim]
  rw [Search.next_known h.final h.total, hex]
  rfl

/-- The cursor of a walk may be moved. -/
theorem Pass.move (h : Pass t book N view s) {s' : Search} {c : Cursor}
    (hquery : s'.query = s.query) (htotal : s'.cache.total = s.cache.total)
    (hshows : s'.Shows t book (HoldsRecord book.direction s.query.pageSize.toNat N.toNat)
      fun p => view p.toInt.natAbs)
    (hhalted : c.halted = s.query.cursor.halted) (hstep : c.step = s.query.cursor.step) :
    Pass t book N view (s'.moveCursor fun _ => c) where
  final := by
    show s'.query.stage = _
    rw [hquery]
    exact h.final
  total := htotal.trans h.total
  small := h.small
  running := by
    show c.halted = false
    rw [hhalted]
    exact h.running
  step_pos := by
    show 0 < c.step.toNat
    rw [hstep]
    exact h.step_pos
  shows := by
    have hsize : (s'.moveCursor fun _ => c).query.pageSize = s.query.pageSize := by
      show s'.query.pageSize = _
      rw [hquery]
    rw [hsize]
    exact ⟨hshows.stored, hshows.served⟩

/-- What a walk has left to visit starts at its position and ascends. -/
theorem Pass.head (h : Pass t book N view s) {p : Nat} {ps : List Nat}
    (hrest : s.query.cursor.rest N = p :: ps) :
    p = s.query.cursor.position.toNat ∧ ps = s.query.cursor.advance.rest N
      ∧ p < visitLimit s.query.cursor.stop N ∧ ∀ q ∈ ps, p < q := by
  have hlt : s.query.cursor.position.toNat < visitLimit s.query.cursor.stop N := by
    by_contra hge
    rw [(Cursor.rest_eq_nil_iff h.step_pos).mpr (by omega)] at hrest
    exact absurd hrest (List.cons_ne_nil _ _).symm
  have hsorted : (s.query.cursor.rest N).Pairwise (· < ·) := visits_sorted h.step_pos
  have hcons := Cursor.rest_advance h.step_pos hlt
  rw [hrest, List.pairwise_cons] at hsorted
  rw [hrest] at hcons
  injection hcons with hp hps
  exact ⟨hp, hps, by omega, hsorted.1⟩

/-- **What a step of a walk does**: it gives the item of the first position
left, having looked at its page, and leaves the walk in progress. -/
structure Pass.Step (t : Transport) (book : Matchbook) (N : UInt64) (view : Nat → PageView)
    (p : Nat) (ps : List Nat) (item : Except QueryError Entry) (s s' : Search) : Prop where
  next_eq : s.next t = (some item, s')
  config_eq : s'.query.config = s.query.config
  took : Search.TookPage book (fun p => view p.toInt.natAbs)
    (book.direction.page (p / s.query.pageSize.toNat + 1)) s { s' with query := s.query }
  pass : Pass t book N view s'
  head : HeadItem view book.direction s.query.pageSize.toNat N p ps item
    (s'.query.cursor.rest N)

/-- The position of a walk in progress is in the slot that its page and its
item are read from. -/
theorem Pass.next_head (h : Pass t book N view s) {p : Nat} {ps : List Nat}
    (hrest : s.query.cursor.rest N = p :: ps) :
    ∃ s₁ item c, s.next t = (some item, s₁.moveCursor fun _ => c)
      ∧ Search.stepOver? s.query.pageSize item s.query.cursor = some c
      ∧ item = (match view (p / s.query.pageSize.toNat + 1) with
          | .error e => .error (.fetch e)
          | .ok find => entryIn find book.direction s.query.pageSize.toNat p N)
      ∧ Search.TookPage book (fun p => view p.toInt.natAbs)
          (book.direction.page (p / s.query.pageSize.toNat + 1)) s s₁
      ∧ s₁.Shows t book (HoldsRecord book.direction s.query.pageSize.toNat N.toNat)
          fun p => view p.toInt.natAbs := by
  have hk := s.query.pageSize_pos
  obtain ⟨hp, -, hlt, -⟩ := h.head hrest
  have hpN : p < N.toNat := Nat.lt_of_lt_of_le hlt (visitLimit_le _ _)
  have hsmall := h.small
  have hgoes : s.query.cursor.isExhausted N = false := by
    rw [Cursor.isExhausted_eq, h.running, Bool.false_or, decide_eq_false_iff_not]
    omega
  have hrank := page_le_rank p s.query.pageSize.toNat
  -- The position is below `2^63`, so that neither its page nor its rank wraps.
  have hslot := locate?_of_lt book.direction hk
    (show s.query.cursor.position.toNat / s.query.pageSize.toNat + 1 < 2 ^ 63 by
      rw [← hp]
      omega)
  have hpage : (Slot.locate s.query.cursor.position s.query.pageSize book.direction).page
      = book.direction.page (p / s.query.pageSize.toNat + 1) := by
    rw [locate_page _ hk (by rw [← hp]; omega), hp]
  have hitem : Search.recordIn (fun p => view p.toInt.natAbs) s.query.pageSize N
      (Slot.locate s.query.cursor.position s.query.pageSize book.direction) = _ :=
    recordIn_locate hk (by omega) hsmall
  rw [← hp] at hitem
  obtain ⟨s₁, hnext, htook, hshows⟩ := Search.next_shown h.final h.total h.shows hgoes hslot
    (hpage ▸ holdsRecord_page hpN)
  obtain ⟨c, hstep⟩ := Search.exists_stepOver (k := s.query.pageSize) (c := s.query.cursor)
    (show s.query.cursor.position.toNat < 2 ^ 63 by omega)
    (Search.recordIn_ne_overflow (fun p => view p.toInt.natAbs) s.query.pageSize N
      (Slot.locate s.query.cursor.position s.query.pageSize book.direction))
  rw [Search.goOn_of_some (by rw [htook.query_eq]; exact hstep)] at hnext
  rw [hpage] at htook
  exact ⟨s₁, _, c, hnext, hstep, hitem, htook, hshows⟩

/-- **One step of a walk**: it looks at the page of its position, and goes
one step on, or behind a page that cannot be had. -/
theorem Pass.step (h : Pass t book N view s) {p : Nat} {ps : List Nat}
    (hrest : s.query.cursor.rest N = p :: ps) :
    ∃ item s', Pass.Step t book N view p ps item s s' := by
  obtain ⟨hp, hps, hlt, hlater⟩ := h.head hrest
  have hpN : p < N.toNat := Nat.lt_of_lt_of_le hlt (visitLimit_le _ _)
  have hsmall := h.small
  obtain ⟨s₁, item, c, hnext, hstep, hitem, htook, hshows⟩ := h.next_head hrest
  have htook' : Search.TookPage book (fun p => view p.toInt.natAbs)
      (book.direction.page (p / s.query.pageSize.toNat + 1)) s { s₁ with query := s.query } :=
    ⟨rfl, htook.total_eq, htook.log_eq, htook.contains_iff⟩
  have hconfig : s₁.query.config = s.query.config := by
    rw [htook.query_eq]
  cases hview : view (p / s.query.pageSize.toNat + 1) with
  | ok find =>
      have hitem : item = entryIn find book.direction s.query.pageSize.toNat p N := by
        rw [hitem, hview]
      rw [hitem, stepOver?_entryIn] at hstep
      obtain rfl := Option.some.inj hstep
      refine ⟨_, _, hnext, hconfig, htook', ?_, ?_⟩
      · exact h.move htook.query_eq htook.total_eq hshows rfl rfl
      · show HeadItem _ _ _ _ _ _ item (s.query.cursor.advance.rest N)
        rw [← hps, hitem]
        exact .entry hview
  | error e =>
      have hitem : item = .error (.fetch e) := by
        rw [hitem, hview]
      rw [hitem] at hstep
      obtain ⟨boundary, hend, hboundary⟩ := Search.exists_pageEnd (k := s.query.pageSize)
        (show s.query.cursor.position.toNat < 2 ^ 63 by omega)
      obtain rfl : s.query.cursor.skipTo boundary = c := by
        unfold Search.stepOver? at hstep
        rw [hend] at hstep
        exact Option.some.inj hstep
      have hleft : (s.query.cursor.skipTo boundary).rest N
          = ps.filter fun q =>
              decide (q / s.query.pageSize.toNat ≠ p / s.query.pageSize.toNat) := by
        rw [Cursor.rest_skipTo h.step_pos, hrest, hboundary, ← hp,
          filter_pageEnd s.query.pageSize_pos hlater]
      refine ⟨_, _, hnext, hconfig, htook', ?_, ?_⟩
      · exact h.move htook.query_eq htook.total_eq hshows (Cursor.skipTo_halted _ _)
          (Cursor.skipTo_step _ _)
      · show HeadItem _ _ _ _ _ _ item ((s.query.cursor.skipTo boundary).rest N)
        rw [hleft, hitem]
        exact .missed hview

/-- The positions left are those of records. -/
theorem Pass.lt_total (h : Pass t book N view s) {q : Nat} (hq : q ∈ s.query.cursor.rest N) :
    q < N.toNat :=
  Nat.lt_of_lt_of_le (lt_of_mem_visits h.step_pos hq) (visitLimit_le _ _)

/-- After a look at the page of `p`, the pages of the positions left are in
the store if they were before, or if they are that page and it can be had. -/
theorem Pass.contains_took (h : Pass t book N view s) {s₁ : Search} {p q : Nat}
    (hp : p ∈ s.query.cursor.rest N) (hq : q ∈ s.query.cursor.rest N)
    (htook : Search.TookPage book (fun p => view p.toInt.natAbs)
      (book.direction.page (p / s.query.pageSize.toNat + 1)) s s₁) :
    s₁.cache.contains (book.direction.page (q / s.query.pageSize.toNat + 1)) = false
      ↔ s.cache.contains (book.direction.page (q / s.query.pageSize.toNat + 1)) = false
        ∧ ¬(q / s.query.pageSize.toNat + 1 = p / s.query.pageSize.toNat + 1
            ∧ ∃ find, view (p / s.query.pageSize.toNat + 1) = .ok find) := by
  have hsmall := h.small
  have hpN := h.lt_total hp
  have hqN := h.lt_total hq
  have hp1 := page_le_rank p s.query.pageSize.toNat
  have hq1 := page_le_rank q s.query.pageSize.toNat
  -- Ranks of pages of records are small enough to be told by their numbers.
  have hpage : book.direction.page (q / s.query.pageSize.toNat + 1)
        = book.direction.page (p / s.query.pageSize.toNat + 1)
      ↔ q / s.query.pageSize.toNat + 1 = p / s.query.pageSize.toNat + 1 :=
    ⟨page_inj _ (by omega) (by omega), congrArg _⟩
  have hview : view (book.direction.page (p / s.query.pageSize.toNat + 1)).toInt.natAbs
      = view (p / s.query.pageSize.toNat + 1) := by
    rw [page_natAbs _ (by omega)]
  have hiff := htook.contains_iff (book.direction.page (q / s.query.pageSize.toNat + 1))
  rw [hpage, hview] at hiff
  rw [← Bool.not_eq_true, hiff, not_or, Bool.not_eq_true]

/-- **What is still to be requested** after a step: the pages of the later
positions that were to be requested before, without the page of the step. -/
theorem Pass.pages_rest (h : Pass t book N view s) {s' : Search} {p n : Nat} {ps : List Nat}
    {item : Except QueryError Entry} (hrest : s.query.cursor.rest N = p :: ps)
    (hstep : Pass.Step t book N view p ps item s s') :
    ((∃ q ∈ s'.query.cursor.rest N, q / s.query.pageSize.toNat + 1 = n)
        ∧ s'.cache.contains (book.direction.page n) = false)
      ↔ (∃ q ∈ ps, q / s.query.pageSize.toNat + 1 = n)
        ∧ s.cache.contains (book.direction.page n) = false
        ∧ n ≠ p / s.query.pageSize.toNat + 1 := by
  have hp : p ∈ s.query.cursor.rest N := by
    rw [hrest]
    exact List.mem_cons_self
  have hcontains : (∃ q ∈ ps, q / s.query.pageSize.toNat + 1 = n) →
      (s'.cache.contains (book.direction.page n) = false
        ↔ s.cache.contains (book.direction.page n) = false
          ∧ ¬(n = p / s.query.pageSize.toNat + 1
              ∧ ∃ find, view (p / s.query.pageSize.toNat + 1) = .ok find)) := by
    intro hex
    obtain ⟨q, hq, rfl⟩ := hex
    have hq : q ∈ s.query.cursor.rest N := by
      rw [hrest]
      exact List.mem_cons_of_mem _ hq
    have hiff := h.contains_took hp hq hstep.took
    exact hiff
  have hhead := hstep.head
  generalize s'.query.cursor.rest N = rest at hhead ⊢
  cases hhead with
  | entry hview =>
      -- The page is in the store now, which takes it away.
      constructor
      · intro hnew
        obtain ⟨hex, hfree⟩ := hnew
        obtain ⟨hs, hne⟩ := (hcontains hex).mp hfree
        exact ⟨hex, hs, fun heq => hne ⟨heq, _, hview⟩⟩
      · intro hold
        obtain ⟨hex, hs, hne⟩ := hold
        exact ⟨hex, (hcontains hex).mpr ⟨hs, fun hboth => hne hboth.1⟩⟩
  | missed hview =>
      -- The page is not in the store, but none of the positions left is on it.
      constructor
      · intro hnew
        obtain ⟨⟨q, hq, hn⟩, hfree⟩ := hnew
        rw [List.mem_filter, decide_eq_true_eq] at hq
        have hex : ∃ q ∈ ps, q / s.query.pageSize.toNat + 1 = n := ⟨q, hq.1, hn⟩
        exact ⟨hex, ((hcontains hex).mp hfree).1, by omega⟩
      · intro hold
        obtain ⟨⟨q, hq, hn⟩, hs, hne⟩ := hold
        refine ⟨⟨q, ?_, hn⟩, (hcontains ⟨q, hq, hn⟩).mpr ⟨hs, fun hboth => hne hboth.1⟩⟩
        rw [List.mem_filter, decide_eq_true_eq]
        exact ⟨hq, by omega⟩

/-- What a step requests comes before what the rest of the walk requests. -/
theorem Pass.requestedOnce_cons (h : Pass t book N view s) {s' s'' : Search} {p : Nat}
    {ps : List Nat} {item : Except QueryError Entry} (hrest : s.query.cursor.rest N = p :: ps)
    (hstep : Pass.Step t book N view p ps item s s')
    (hreq : RequestedOnce book (s'.query.cursor.rest N) s' s'') :
    RequestedOnce book (p :: ps) s s'' := by
  have hsize : s'.query.pageSize = s.query.pageSize := congrArg Config.pageSize hstep.config_eq
  have hurl : ∀ q, s'.query.urlFor book q = s.query.urlFor book q := by
    intro q
    unfold Query.urlFor
    rw [hstep.config_eq, hsize]
  have hle : ∀ q ∈ ps, p / s.query.pageSize.toNat + 1 ≤ q / s.query.pageSize.toNat + 1 := by
    intro q hq
    exact Nat.succ_le_succ (Nat.div_le_div_right ((h.head hrest).2.2.2 q hq).le)
  have hlog : s'.log = if s.cache.contains
      (book.direction.page (p / s.query.pageSize.toNat + 1)) then s.log
      else s.log ++ [s.query.urlFor book (book.direction.page (p / s.query.pageSize.toNat + 1))] :=
    hstep.took.log_eq
  obtain ⟨pages, hsorted, hmem, hend⟩ := hreq
  rw [hsize] at hmem
  obtain ⟨hsorted', hmem'⟩ := ascending_cons (fun q => q / s.query.pageSize.toNat + 1) hle hsorted
    (fun n => (hmem n).trans (h.pages_rest hrest hstep))
  refine ⟨_, hsorted', hmem', ?_⟩
  rw [hend, hlog]
  simp only [hurl]
  show _ = s.log ++ List.map _
    (if s.cache.contains (book.direction.page (p / s.query.pageSize.toNat + 1)) = true
      then pages else (p / s.query.pageSize.toNat + 1) :: pages)
  split
  · rfl
  · rw [List.map_cons, List.append_assoc]
    rfl

/-! ## §3. The rest of a walk. -/

theorem RequestedOnce.nil : RequestedOnce book [] s s := by
  refine ⟨[], List.Pairwise.nil, fun n => ?_, (List.append_nil _).symm⟩
  simp

/-- A walk without positions left goes on finding nothing. -/
theorem Pass.nexts_end (h : Pass t book N view s) (hend : s.query.cursor.rest N = []) (m : Nat) :
    s.nexts t ((items view book.direction s.query.pageSize.toNat N []).length + m)
      = (List.replicate m none, s) := by
  show s.nexts t (0 + m) = _
  rw [Nat.zero_add]
  exact nexts_of_next_none (h.next_end hend) m

/-- **The rest of a walk**: its items, then nothing for as many calls as
one likes, and the requests that it makes. -/
theorem nexts_pass (h : Pass t book N view s) (m : Nat) :
    ∃ s', s.nexts t
        ((items view book.direction s.query.pageSize.toNat N (s.query.cursor.rest N)).length + m)
        = ((items view book.direction s.query.pageSize.toNat N (s.query.cursor.rest N)).map some
            ++ List.replicate m none, s')
      ∧ RequestedOnce book (s.query.cursor.rest N) s s' := by
  -- The positions left decide all, and each step leaves fewer of them.
  obtain ⟨count, hcount⟩ : ∃ count, (s.query.cursor.rest N).length ≤ count := ⟨_, Nat.le_refl _⟩
  induction count generalizing s with
  | zero =>
      have hnil := List.eq_nil_of_length_eq_zero (Nat.le_zero.mp hcount)
      rw [hnil]
      exact ⟨s, h.nexts_end hnil m, RequestedOnce.nil⟩
  | succ count ih =>
      cases hrest : s.query.cursor.rest N with
      | nil => exact ⟨s, h.nexts_end hrest m, RequestedOnce.nil⟩
      | cons p ps =>
          obtain ⟨item, s₁, hstep⟩ := h.step hrest
          have hsize : s₁.query.pageSize = s.query.pageSize :=
            congrArg Config.pageSize hstep.config_eq
          have hitems := items_cons hstep.head (h.head hrest).2.2.2
          have hfewer : (s₁.query.cursor.rest N).length ≤ count := by
            have hle := hstep.head.length_le
            rw [hrest, List.length_cons] at hcount
            omega
          obtain ⟨s', hnexts, hreq⟩ := ih hstep.pass hfewer
          rw [hsize] at hnexts
          refine ⟨s', ?_, h.requestedOnce_cons hrest hstep hreq⟩
          rw [hitems, List.length_cons, Nat.add_right_comm, nexts_succ hstep.next_eq hnexts]
          rfl

end Walk

/-! ## §4. Passes with pages that fail. -/

/-- The page of a place in the result: the stored one, else what is
answered when it is requested. -/
def pageAt (book : Matchbook) (answers : Nat → Except FetchError Page) (s : Search) (n : Nat) :
    Except FetchError Page :=
  match s.cache.page? (book.direction.page n) with
  | some body => .ok body
  | none => answers n

/-- Fixed answers for the pages that are not stored make a view. -/
theorem shows_pageAt {t : Transport} {book : Matchbook} {N : UInt64} {s : Search}
    {answers : Nat → Except FetchError Page} (hsmall : N.toNat < 2 ^ 63)
    (hanswers : ∀ n, 0 < n → (n - 1) * s.query.pageSize.toNat < N.toNat →
      s.cache.contains (book.direction.page n) = false → ∀ log,
      Transport.pageOf (s.query.urlFor book (book.direction.page n))
        (t.answer log (s.query.urlFor book (book.direction.page n))) = answers n) :
    s.Shows t book (HoldsRecord book.direction s.query.pageSize.toNat N.toNat)
      fun p => Search.viewOf (pageAt book answers s p.toInt.natAbs) := by
  have hk := s.query.pageSize_pos
  have hfit : ∀ n, 0 < n → (n - 1) * s.query.pageSize.toNat < N.toNat → n < 2 ^ 63 := by
    intro n hn hlt
    have hle := Nat.le_mul_of_pos_right (n - 1) hk
    omega
  constructor
  · rintro p ⟨n, hn, hlt, rfl⟩ body hbody
    rw [page_natAbs _ (hfit n hn hlt)]
    unfold pageAt
    rw [hbody]
    rfl
  · rintro p ⟨n, hn, hlt, rfl⟩ hfree log
    rw [page_natAbs _ (hfit n hn hlt), hanswers n hn hlt hfree log]
    unfold pageAt
    cases hbody : s.cache.page? (book.direction.page n) with
    | none => rfl
    | some body =>
        rw [PageCache.contains_of_page? hbody] at hfree
        exact absurd hfree (by decide)

/-- **A full pass reports every failed page once and loses nothing else.**
Whatever is stored, and whether a page that is not stored arrives or fails,
the calls of `next` from the start of the cursor give the items of the
visited positions and then nothing; every visited page that was not stored
is requested once, failing pages included. -/
theorem nexts_rewind_eq_items (t : Transport) (book : Matchbook) (N : UInt64) (s : Search)
    (answers : Nat → Except FetchError Page)
    (hfinal : s.query.stage = .final book) (htotal : s.cache.total = some N)
    (hsmall : N.toNat < 2 ^ 63) (hstep : 0 < s.query.cursor.step.toNat)
    (hanswers : ∀ n, 0 < n → (n - 1) * s.query.pageSize.toNat < N.toNat →
      s.cache.contains (book.direction.page n) = false → ∀ log,
      Transport.pageOf (s.query.urlFor book (book.direction.page n))
        (t.answer log (s.query.urlFor book (book.direction.page n))) = answers n)
    (m : Nat) :
    let visited := visits s.query.cursor.start.toNat s.query.cursor.step.toNat
      (visitLimit s.query.cursor.stop N)
    let given := items (fun n => Search.viewOf (pageAt book answers s n)) book.direction
      s.query.pageSize.toNat N visited
    ∃ s', s.rewind.nexts t (given.length + m) = (given.map some ++ List.replicate m none, s')
      ∧ RequestedOnce book visited s s' := by
  have hpass : Pass t book N (fun n => Search.viewOf (pageAt book answers s n)) s.rewind :=
    { final := hfinal
      total := htotal
      small := hsmall
      running := rfl
      step_pos := hstep
      shows := by
        have hs := shows_pageAt hsmall hanswers
        exact ⟨hs.stored, hs.served⟩ }
  exact nexts_pass hpass m

/-- A result of five records on three pages: the first page is stored, and
one of its records is not an object. -/
def Sample.halfStored : Search where
  query :=
    ⟨{ Config.standard with batchSize := 2 }, .final ⟨none, .ascending, [], [], []⟩,
      Cursor.startingAt 0⟩
  cache := ⟨[(1, [("1 of 5", .obj []), ("2 of 5", .null)])], some 5⟩
  log := []

/-- A transport that has the last of the three pages only. -/
def Sample.lastPage : Transport :=
  Canned.transport { Canned.empty with pages := [(3, "\x7b\"5 of 5\":\x7b\x7d\x7d")] }

theorem nexts_rewind_eq_items_halfStored :
    (Sample.halfStored.rewind.nexts Sample.lastPage 6).1
      = [some (.ok (Entry.ofRecord [])), some (.error (.missingRecord "2 of 5" 1)),
         some (.error (.fetch
           (.status "http://aflowlib.duke.edu/search/API/?,paging(2,2)" 404 ""))),
         some (.ok (Entry.ofRecord [])), none, none] := by
  obtain ⟨s', h, -⟩ := nexts_rewind_eq_items Sample.lastPage ⟨none, .ascending, [], [], []⟩ 5
    Sample.halfStored
    (fun n => if n = 3 then .ok [("5 of 5", .obj [])]
      else .error (.status "http://aflowlib.duke.edu/search/API/?,paging(2,2)" 404 ""))
    rfl rfl (by decide) (by decide)
    (by
      intro n hpos hlt hfree log
      have hsteady : Sample.lastPage.Steady := Canned.transport_steady _
      rw [hsteady log []]
      have hcases : n = 1 ∨ n = 2 ∨ n = 3 := by
        have : (n - 1) * 2 < 5 := hlt
        omega
      rcases hcases with rfl | rfl | rfl
      · exact absurd hfree (by decide)
      · decide +kernel
      · decide +kernel) 2
  exact congrArg Prod.fst h

end MaterialSearch
