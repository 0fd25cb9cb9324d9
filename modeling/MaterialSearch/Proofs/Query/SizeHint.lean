/-
  MaterialSearch.Proofs.Query.SizeHint
  ────────────────────────────────
  **HOW MANY RECORDS ARE STILL TO COME.**

  A query announces the number of positions that its cursor has left.  A
  walk gives one item for each of them, except that a page which cannot be
  had gives one item in all.  So the number announced is never exceeded,
  and it is reached unless a page that cannot be had holds several of the
  positions.

  Main definitions:
    * `Search.Yields`   — the items of a walk, up to its end
    * `Search.Informed` — a walk whose number of records is known
    * `Config.PagesFit` — the last page ends within 64 bits

  Main results:
    * `Informed.left_next`      — what one step leaves to visit
    * `Informed.length_le`, `Informed.length_eq`, `Informed.exists_yields`
      — the items of the rest of a walk
    * `yields_within_sizeHint`  — the announced numbers in every reachable state
    * `sizeHint_above_yields`   — a failed page falls short of them
-/
import MaterialSearch.Proofs.Query.Fetches
import MaterialSearch.Proofs.Query.Overflow
import MaterialSearch.Proofs.Query.Pass

namespace MaterialSearch

open Keyword Numeric

/-! ## §1. The items of a walk. -/

/-- **What repeated calls of `next` give** before they give nothing.  A walk
in which the program breaks off gives no such items. -/
inductive Search.Yields (t : Transport) : Search → List (Except QueryError Entry) → Prop
  /-- The walk is over. -/
  | finished {s s' : Search} (h : s.next t = (none, s')) : Yields t s []
  /-- One more item. -/
  | item {s s' : Search} {item : Except QueryError Entry} {items : List (Except QueryError Entry)}
      (h : s.next t = (some item, s')) (given : item ≠ .error .overflow)
      (rest : Yields t s' items) : Yields t s (item :: items)

/-- The calls of a walk, counted beforehand. -/
theorem yields_of_nexts {t : Transport} {items : List (Except QueryError Entry)} :
    ∀ {s : Search}, .error .overflow ∉ items →
      (s.nexts t (items.length + 1)).1 = items.map some ++ [none] → s.Yields t items := by
  induction items with
  | nil =>
      intro s _ h
      have hnext : (s.next t).1 = none := by
        have hfirst := head_nexts t 0 s
        rw [show (s.nexts t (0 + 1)).1 = [none] from h] at hfirst
        injection hfirst with hfirst
        exact hfirst.symm
      exact .finished (Prod.ext hnext rfl)
  | cons item items ih =>
      intro s hgiven h
      rw [List.mem_cons, not_or] at hgiven
      have hcalls : (s.nexts t (items.length + 1 + 1)).1
          = (s.next t).1 :: ((s.next t).2.nexts t (items.length + 1)).1 := rfl
      rw [List.length_cons, hcalls] at h
      injection h with hitem hrest
      exact .item (Prod.ext hitem rfl) (Ne.symm hgiven.1) (ih hgiven.2 hrest)

/-! ## §2. What a skip takes away. -/

namespace Cursor

variable {c : Cursor} {total boundary : UInt64}

/-- A skip is a step that leaves out the positions before the boundary. -/
theorem rest_skipTo_of_lt (hstep : 0 < c.step.toNat)
    (h : c.position.toNat < visitLimit c.stop total) (hb : c.position.toNat < boundary.toNat) :
    (c.skipTo boundary).rest total
      = (c.advance.rest total).filter fun p => decide (boundary.toNat ≤ p) := by
  rw [rest_skipTo hstep, rest_advance hstep h]
  apply List.filter_cons_of_neg
  rw [decide_eq_true_eq]
  omega

/-- A skip takes one position away at least. -/
theorem length_rest_skipTo (hstep : 0 < c.step.toNat)
    (h : c.position.toNat < visitLimit c.stop total) (hb : c.position.toNat < boundary.toNat) :
    ((c.skipTo boundary).rest total).length + 1 ≤ (c.rest total).length := by
  rw [rest_skipTo_of_lt hstep h hb, ← length_rest_advance hstep h]
  exact Nat.succ_le_succ (List.length_filter_le _ _)

/-- A skip that goes no further than a step is one. -/
theorem length_rest_skipTo_of_le (hstep : 0 < c.step.toNat)
    (h : c.position.toNat < visitLimit c.stop total) (hb : c.position.toNat < boundary.toNat)
    (hnear : boundary.toNat ≤ c.position.toNat + c.step.toNat) :
    ((c.skipTo boundary).rest total).length + 1 = (c.rest total).length := by
  have hlater : ∀ p ∈ c.advance.rest total, decide (boundary.toNat ≤ p) = true := by
    intro p hp
    have hword := boundary.toNat_lt
    have hle : (addCapped c.position c.step).toNat ≤ p := le_of_mem_visits hstep hp
    rw [toNat_addCapped] at hle
    rw [decide_eq_true_eq]
    omega
  rw [rest_skipTo_of_lt hstep h hb, List.filter_eq_self.mpr hlater,
    length_rest_advance hstep h]

end Cursor

/-! ## §3. One step. -/

/-- **The last page of a result ends within 64 bits.** -/
def Config.PagesFit (config : Config) (N : UInt64) : Prop :=
  (N.toNat + config.pageSize.toNat - 1) / config.pageSize.toNat * config.pageSize.toNat < 2 ^ 64

/-- Results of fewer than `2^63` records have such pages, of any size. -/
theorem pagesFit_of_small (config : Config) {N : UInt64} (h : N.toNat < 2 ^ 63) :
    config.PagesFit N := by
  have hk : 0 < config.pageSize.toNat := (Query.ofConfig config).pageSize_pos
  have hword := config.pageSize.toNat_lt
  unfold Config.PagesFit
  by_cases hle : config.pageSize.toNat ≤ N.toNat
  · have hmul := Nat.div_mul_le_self (N.toNat + config.pageSize.toNat - 1) config.pageSize.toNat
    omega
  · -- There is one page, or none.
    have hone : (N.toNat + config.pageSize.toNat - 1) / config.pageSize.toNat ≤ 1 := by
      rw [← Nat.lt_succ_iff, Nat.div_lt_iff_lt_mul hk]
      omega
    have hmul := Nat.mul_le_mul_right config.pageSize.toNat hone
    omega

/-- **The number of every page of a result has an opposite.** -/
def Config.PagesSigned (config : Config) (N : UInt64) : Prop :=
  (N.toNat + config.pageSize.toNat - 1) / config.pageSize.toNat < 2 ^ 63

/-- The page of a record is none behind the last one. -/
theorem page_le_last {q : Query} {N position : UInt64} (h : position.toNat < N.toNat) :
    position.toNat / q.pageSize.toNat + 1
      ≤ (N.toNat + q.pageSize.toNat - 1) / q.pageSize.toNat := by
  rw [← Nat.add_div_right _ q.pageSize_pos]
  exact Nat.div_le_div_right (by omega)

/-- **A walk whose number of records is known.** -/
structure Search.Informed (book : Matchbook) (N : UInt64) (s : Search) : Prop where
  final : s.query.stage = .final book
  total : s.cache.total = some N
  step_pos : 0 < s.query.cursor.step.toNat

/-- The number of positions that a walk has left. -/
def Search.left (N : UInt64) (s : Search) : Nat := (s.query.cursor.remaining N).toNat

namespace Search

variable {t : Transport} {book : Matchbook} {N : UInt64} {s s' : Search}
  {item : Except QueryError Entry} {items : List (Except QueryError Entry)}

/-- Positions are left as long as the cursor is not exhausted. -/
theorem Informed.left_eq_zero_iff (h : s.Informed book N) :
    s.left N = 0 ↔ s.query.cursor.isExhausted N = true := by
  unfold left
  rw [Cursor.toNat_remaining N h.step_pos, Cursor.isExhausted_eq]
  cases s.query.cursor.halted with
  | true => simp
  | false =>
      rw [if_neg (by decide), List.length_eq_zero_iff, Cursor.rest_eq_nil_iff h.step_pos]
      simp

/-- A walk without positions left finds nothing. -/
theorem Informed.next_over (h : s.Informed book N) (hleft : s.left N = 0) :
    s.next t = (none, s) := by
  rw [next_known h.final h.total, h.left_eq_zero_iff.mp hleft]
  rfl

/-- **A walk does not break off** where pages end within 64 bits and their
numbers have opposites, as far as these are needed. -/
theorem Informed.not_breaks (h : s.Informed book N) (hfit : s.query.config.PagesFit N)
    (hsigned : book.direction = .descending → s.query.config.PagesSigned N) :
    ¬s.Breaks t := by
  intro hbreaks
  obtain ⟨M, hM, hgoes⟩ := hbreaks.goes
  rw [length_known h.final h.total] at hM
  obtain rfl : N = M := Except.ok.inj hM
  have hlast := page_le_last (q := s.query) (Cursor.position_lt hgoes)
  rcases hbreaks.overflows with ⟨hdir, hpage⟩ | ⟨hbeyond, -⟩
  · rw [Query.direction_eq (Query.matchbook_of_final h.final)] at hdir
    have hsigned : (N.toNat + s.query.pageSize.toNat - 1) / s.query.pageSize.toNat < 2 ^ 63 :=
      hsigned hdir
    omega
  · have hend := Nat.mul_le_mul_right s.query.pageSize.toNat hlast
    have hfit : (N.toNat + s.query.pageSize.toNat - 1) / s.query.pageSize.toNat
        * s.query.pageSize.toNat < 2 ^ 64 := hfit
    omega

/-- A walk with positions left gives an item, or the program breaks off. -/
theorem Informed.next_item (t : Transport) (h : s.Informed book N) (hleft : s.left N ≠ 0) :
    ∃ item s', s.next t = (some item, s') ∧ s'.Informed book N
      ∧ s'.query.config = s.query.config
      ∧ (item ≠ .error .overflow →
          stepOver? s.query.pageSize item s.query.cursor = some s'.query.cursor) := by
  have hgoes : ¬s.query.cursor.isExhausted N = true := mt h.left_eq_zero_iff.mpr hleft
  have hlen : s.length t = (.ok N, s) := length_known h.final h.total
  have hreads : Reads t book s (s.next t).2 := reads_next_known h.final h.total
  have htotal := hreads.fetches.total_eq h.total
  have hstep : (s.next t).2.query.cursor.step = s.query.cursor.step := next_step t s
  have hinformed : (s.next t).2.Informed book N :=
    ⟨hreads.final, htotal, by rw [hstep]; exact h.step_pos⟩
  rcases (next_moves t s).2 with ⟨hnone, -⟩ | ⟨⟨e, he⟩, -⟩ | ⟨hover, -⟩ | ⟨item, hitem, hcursor⟩
  · rw [next_of_length_ok hlen (Bool.eq_false_iff.mpr hgoes)] at hnone
    exact absurd hnone (by simp)
  · rw [hlen] at he
    exact absurd he (by simp)
  · exact ⟨_, _, Prod.ext hover rfl, hinformed, hreads.config_eq, fun hitem => absurd rfl hitem⟩
  · exact ⟨item, _, Prod.ext hitem rfl, hinformed, hreads.config_eq, fun _ => hcursor⟩

/-- **What one step leaves to visit**: one position less, unless it comes
upon a page that cannot be had, which may hold more of them. -/
theorem Informed.left_next (h : s.Informed book N) (hnext : s.next t = (some item, s'))
    (hgiven : item ≠ .error .overflow) :
    s'.Informed book N ∧ s'.query.config = s.query.config
      ∧ s'.query.cursor.step = s.query.cursor.step
      ∧ s'.left N + 1 ≤ s.left N
      ∧ ((∀ e, item ≠ .error (.fetch e)) ∨ s.query.pageSize ≤ s.query.cursor.step →
          s'.left N + 1 = s.left N) := by
  have hleft : s.left N ≠ 0 := by
    intro hzero
    rw [h.next_over hzero] at hnext
    exact absurd hnext (by simp)
  obtain ⟨item', s₁, hnext', h', hconfig, hcursor⟩ := h.next_item t hleft
  rw [hnext] at hnext'
  injection hnext' with hitem hs
  injection hitem with hitem
  subst hitem hs
  specialize hcursor hgiven
  have hgoes := mt h.left_eq_zero_iff.mpr hleft
  rw [Cursor.isExhausted_eq, Bool.or_eq_true, not_or, decide_eq_true_eq] at hgoes
  obtain ⟨hrunning, hlimit⟩ := hgoes
  have hlimit : s.query.cursor.position.toNat < visitLimit s.query.cursor.stop N := by omega
  have hbefore : s.left N = (s.query.cursor.rest N).length := by
    unfold left
    rw [Cursor.toNat_remaining N h.step_pos, if_neg hrunning]
  have hafter : s'.left N = (s'.query.cursor.rest N).length := by
    unfold left
    rw [Cursor.toNat_remaining N h'.step_pos, stepOver?_halted hcursor, if_neg hrunning]
  rw [hafter, hbefore]
  refine ⟨h', hconfig, stepOver?_step hcursor, ?_⟩
  by_cases hmissed : ∃ e, item = .error (.fetch e)
  · obtain ⟨e, rfl⟩ := hmissed
    obtain ⟨boundary, hend, hskip⟩ := Option.map_eq_some_iff.mp hcursor
    rw [pageEnd?_eq_some_iff] at hend
    have hbehind : s.query.cursor.position.toNat < boundary.toNat := by
      rw [← hend, ← Nat.div_lt_iff_lt_mul s.query.pageSize_pos]
      exact Nat.lt_succ_self _
    rw [← hskip]
    refine ⟨Cursor.length_rest_skipTo h.step_pos hlimit hbehind, ?_⟩
    intro hwhole
    rcases hwhole with hnone | hsparse
    · exact absurd rfl (hnone e)
    · apply Cursor.length_rest_skipTo_of_le h.step_pos hlimit hbehind
      have hsparse := UInt64.le_iff_toNat_le.mp hsparse
      have hmul := Nat.div_mul_le_self s.query.cursor.position.toNat s.query.pageSize.toNat
      rw [← hend, Nat.add_mul, Nat.one_mul]
      omega
  · have hone : s'.query.cursor = s.query.cursor.advance := by
      unfold stepOver? at hcursor
      split at hcursor
      · next e => exact absurd ⟨e, rfl⟩ hmissed
      · exact absurd hcursor (by simp)
      · exact (Option.some.inj hcursor).symm
    rw [hone, Cursor.length_rest_advance h.step_pos hlimit]
    exact ⟨Nat.le_refl _, fun _ => rfl⟩

/-! ## §4. The rest of a walk. -/

/-- **No more items than positions**: the number announced is not exceeded. -/
theorem Informed.length_le (h : s.Informed book N) (hitems : s.Yields t items) :
    items.length ≤ s.left N := by
  induction hitems with
  | finished _ => exact Nat.zero_le _
  | item hnext hgiven _ ih =>
      obtain ⟨h', -, -, hfewer, -⟩ := h.left_next hnext hgiven
      have hrest := ih h'
      rw [List.length_cons]
      omega

/-- **One item for each position**, as long as every page can be had or
holds one position only. -/
theorem Informed.length_eq (h : s.Informed book N) (hitems : s.Yields t items)
    (hall : (∀ e, .error (.fetch e) ∉ items) ∨ s.query.pageSize ≤ s.query.cursor.step) :
    items.length = s.left N := by
  induction hitems with
  | finished hnext =>
      by_contra hleft
      obtain ⟨item, s', hitem, -⟩ := h.next_item t (Ne.symm hleft)
      rw [hnext] at hitem
      exact absurd hitem (by simp)
  | item hnext hgiven _ ih =>
      obtain ⟨h', hconfig, hsteps, -, hone⟩ := h.left_next hnext hgiven
      have hrest := ih h' (by
        unfold Query.pageSize at hall ⊢
        rw [hconfig, hsteps]
        exact hall.imp (fun hnone e he => hnone e (List.mem_cons_of_mem _ he)) id)
      have hstep := hone (hall.imp (fun hnone e heq => hnone e (heq ▸ List.mem_cons_self)) id)
      rw [List.length_cons]
      omega

/-- **A walk comes to its end**, whatever the transport does. -/
theorem Informed.exists_yields (t : Transport) (h : s.Informed book N)
    (hfit : s.query.config.PagesFit N)
    (hsigned : book.direction = .descending → s.query.config.PagesSigned N) :
    ∃ items, s.Yields t items := by
  obtain ⟨count, hcount⟩ : ∃ count, s.left N ≤ count := ⟨_, Nat.le_refl _⟩
  induction count generalizing s with
  | zero => exact ⟨[], .finished (h.next_over (Nat.le_zero.mp hcount))⟩
  | succ count ih =>
      by_cases hleft : s.left N = 0
      · exact ⟨[], .finished (h.next_over hleft)⟩
      · obtain ⟨item, s', hnext, -⟩ := h.next_item t hleft
        have hgiven : item ≠ .error .overflow :=
          mt (eq_overflow_iff hnext).mp (h.not_breaks hfit hsigned)
        obtain ⟨h', hconfig, -, hfewer, -⟩ := h.left_next hnext hgiven
        obtain ⟨items, hitems⟩ := ih h' (hconfig ▸ hfit) (hconfig ▸ hsigned) (by omega)
        exact ⟨item :: items, .item hnext hgiven hitems⟩

/-! ## §5. What is announced. -/

/-- Nothing is announced as long as the number of records is unknown. -/
theorem sizeHint_cases (s : Search) :
    s.sizeHint = (0, none)
      ∨ ∃ book N, s.query.stage = .final book ∧ s.cache.total = some N
          ∧ s.sizeHint = (s.query.cursor.remaining N, some (s.query.cursor.remaining N)) := by
  unfold sizeHint
  cases htotal : s.cache.total with
  | none => exact .inl rfl
  | some N =>
      unfold Query.isFinal
      cases hstage : s.query.stage with
      | collecting terms => exact .inl rfl
      | final book => exact .inr ⟨book, N, rfl, rfl, rfl⟩

end Search

/-- **The numbers announced** in a state that a query or a copy has come to
by any run, over any transport, for a walk over any other one.  As long as
every page can be had both are right.  The walk never gives more items than
announced, whatever fails, and it gives as many if no page holds two of its
positions.  It comes to its end unless the program breaks off, for which
the pages have to end within 64 bits, and in descending order their numbers
must have opposites. -/
theorem yields_within_sizeHint (t t' : Transport) (config : Config) (acts : List (Nat × Action))
    (place : Nat) (s : Search)
    (hs : ((Family.start config).run t acts).2.search? place = some s) :
    (∀ items, s.Yields t' items → (∀ e, .error (.fetch e) ∉ items) →
      s.sizeHint.1.toNat ≤ items.length
        ∧ ∀ high, s.sizeHint.2 = some high → items.length ≤ high.toNat)
    ∧ (∀ items, s.Yields t' items →
      (∀ high, s.sizeHint.2 = some high → items.length ≤ high.toNat)
        ∧ (s.query.pageSize ≤ s.query.cursor.step → s.sizeHint.1.toNat ≤ items.length))
    ∧ ((∀ N, s.cache.total = some N → s.query.config.PagesFit N
          ∧ (s.query.direction = .descending → s.query.config.PagesSigned N)) →
      ∀ high, s.sizeHint.2 = some high → ∃ items, s.Yields t' items) := by
  have hstep : 0 < s.query.cursor.step.toNat := by
    unfold Family.search? at hs
    rw [Option.map_eq_some_iff] at hs
    obtain ⟨q, hq, rfl⟩ := hs
    exact run_step_pos t config acts q (List.mem_of_getElem? hq)
  rcases s.sizeHint_cases with hnone | ⟨book, N, hfinal, htotal, hhint⟩
  · rw [hnone]
    refine ⟨?_, ?_, fun _ high hhigh => absurd hhigh (by simp)⟩
    · intro items _ _
      exact ⟨Nat.zero_le _, fun high hhigh => absurd hhigh (by simp)⟩
    · intro items _
      exact ⟨fun high hhigh => absurd hhigh (by simp), fun _ => Nat.zero_le _⟩
  · have h : s.Informed book N := ⟨hfinal, htotal, hstep⟩
    have hhigh : ∀ {high}, some (s.query.cursor.remaining N) = some high →
        s.left N = high.toNat := by
      intro high heq
      injection heq with heq
      rw [← heq]
      rfl
    rw [hhint]
    refine ⟨?_, ?_, ?_⟩
    · intro items hitems hall
      have hlength := h.length_eq hitems (.inl hall)
      exact ⟨hlength.ge, fun high heq => hhigh heq ▸ hlength.le⟩
    · intro items hitems
      refine ⟨fun high heq => hhigh heq ▸ h.length_le hitems, ?_⟩
      intro hsparse
      exact (h.length_eq hitems (.inr hsparse)).ge
    · intro hfits high _
      obtain ⟨hfit, hsigned⟩ := hfits N htotal
      rw [Query.direction_eq (Query.matchbook_of_final hfinal)] at hsigned
      exact h.exists_yields t' hfit hsigned

/-- A transport that has the first of two pages only. -/
def Sample.firstPage : Transport :=
  Canned.transport
    { Canned.empty with
      pages := [(1, "\x7b\"1 of 4\":\x7b\x7d,\"2 of 4\":\x7b\x7d\x7d")] }

/-- Pages of two records. -/
def Sample.pairs : Config := { Config.standard with batchSize := 2 }

/-- A query is asked for the number of records, and copied for every other
position. -/
def Sample.countThenCopy : List (Nat × Action) :=
  [(0, .length), (0, .slice .unbounded .unbounded 2)]

/-- A query of four records whose first page is stored. -/
def Sample.counted (c : Cursor) : Search where
  query := ⟨Sample.pairs, .final ⟨none, .ascending, [], [], []⟩, c⟩
  cache := ⟨[(1, [("1 of 4", .obj []), ("2 of 4", .obj [])])], some 4⟩
  log := ["http://aflowlib.duke.edu/search/API/?,paging(1,2)"]

/-- The copy announces two records, one a page, and gives two items. -/
theorem yields_within_sizeHint_everyOther :
    let s := Sample.counted (Cursor.between 0 none 2)
    ((Family.start Sample.pairs).run Sample.firstPage Sample.countThenCopy).2.search? 1 = some s
      ∧ s.sizeHint = (2, some 2)
      ∧ (∃ items, s.Yields Sample.firstPage items)
      ∧ ∀ items, s.Yields Sample.firstPage items → items.length = 2 := by
  intro s
  have hs : ((Family.start Sample.pairs).run Sample.firstPage
      Sample.countThenCopy).2.search? 1 = some s := by decide +kernel
  have hhint : s.sizeHint = (2, some 2) := by decide
  obtain ⟨-, hbounds, hends⟩ := yields_within_sizeHint Sample.firstPage Sample.firstPage
    Sample.pairs Sample.countThenCopy 1 s hs
  have hends := hends (by
    intro N hN
    have hfour : some (4 : UInt64) = some N := hN
    injection hfour with hfour
    rw [← hfour]
    exact ⟨pagesFit_of_small _ (by decide), fun hdescending => absurd hdescending (by decide)⟩)
  rw [hhint] at hends hbounds
  refine ⟨hs, hhint, hends 2 rfl, ?_⟩
  intro items hitems
  obtain ⟨hmost, hleast⟩ := hbounds items hitems
  exact Nat.le_antisymm (hmost 2 rfl) (hleast (by decide))

/-- What the query gives from its start. -/
def Sample.shortOfFour : List (Except QueryError Entry) :=
  [.ok (Entry.ofRecord []), .ok (Entry.ofRecord []),
    .error (.fetch (.status "http://aflowlib.duke.edu/search/API/?,paging(2,2)" 404 ""))]

/-- **A failed page falls short of the number announced**: the query
announces four records at least, and three items come. -/
theorem sizeHint_above_yields :
    let s := Sample.counted (Cursor.startingAt 0)
    ((Family.start Sample.pairs).run Sample.firstPage Sample.countThenCopy).2.search? 0 = some s
      ∧ s.Yields Sample.firstPage Sample.shortOfFour
      ∧ ¬s.sizeHint.1.toNat ≤ Sample.shortOfFour.length := by
  refine ⟨by decide +kernel, yields_of_nexts ?_ ?_, by decide⟩
  · intro hover
    simp [Sample.shortOfFour] at hover
  · decide +kernel

end MaterialSearch
