/-
  MaterialSearch.Proofs.Query.Progress
  ────────────────────────────────
  **EVERY STEP GOES ON, OR BREAKS OFF.**

  A step that gives an item breaks the walk off or moves the cursor on,
  unless the program itself breaks off.  Behind a page that cannot be had
  the walk goes on where the page ends, and a page may end beyond 64 bits;
  and one page in descending order has a number without an opposite.  As
  long as no step comes upon such a number, a walk gives no more items than
  positions are left, and once it is over it stays so until it is rewound,
  whatever else is done with the query and its copies.

  Main definitions:
    * `Search.callsLeft` — how many items a walk can still give
    * `Search.Over`      — a walk that is over for good

  Main results:
    * `next_goes_on`, `next_stays` — what a step does to the position
    * `next_none_of_callsLeft`     — walks come to their end
    * `not_breaks_nexts`           — walks in which no step breaks off
    * `over_run`                   — walks stay over
    * `next_progress`              — **all of it in every reachable state**
    * `next_overflows`             — a step that breaks off
-/
import MaterialSearch.Proofs.Query.Lifecycle
import MaterialSearch.Proofs.Query.SizeHint

namespace MaterialSearch

open Numeric

namespace Search

/-! ## §1. One step. -/

variable {t : Transport} {s s' : Search} {book : Matchbook} {N : UInt64}
  {item : Except QueryError Entry}

/-- Items come at positions below the greatest count. -/
theorem room_of_next (h : s.next t = (some item, s')) :
    s.query.cursor.halted = false ∧ s.query.cursor.position.toNat + 1 < 2 ^ 64 := by
  have hmax : ¬s.query.cursor.isExhausted maxCount = true := by
    intro hmax
    rw [next_over hmax] at h
    exact absurd h (by simp)
  rw [Cursor.isExhausted_eq, Bool.or_eq_true, not_or, decide_eq_true_eq] at hmax
  have hlimit := visitLimit_le s.query.cursor.stop maxCount
  rw [toNat_maxCount] at hlimit
  exact ⟨Bool.eq_false_iff.mpr hmax.1, by omega⟩

/-- **A step goes on or breaks the walk off** unless the program breaks off. -/
theorem next_goes_on (hstep : 0 < s.query.cursor.step.toNat)
    (h : s.next t = (some item, s')) (hgiven : item ≠ .error .overflow) :
    s'.query.cursor.halted = true ∨ s.query.cursor.position < s'.query.cursor.position := by
  obtain ⟨-, hroom⟩ := room_of_next h
  have hmoves := (next_moves t s).2
  rw [h] at hmoves
  rcases hmoves with ⟨hnone, -⟩ | ⟨-, hhalt⟩ | ⟨hover, -⟩ | ⟨outcome, -, hcursor⟩
  · exact absurd hnone (by simp)
  · exact .inl (by rw [hhalt]; rfl)
  · exact absurd (Option.some.inj hover) hgiven
  · exact .inr (lt_stepOver? hstep s.query.pageSize_pos hroom hcursor)

/-- **Where the program breaks off** the cursor stays where it is. -/
theorem next_stays (h : s.next t = (some (.error .overflow), s')) :
    s'.query.cursor = s.query.cursor := by
  have hbreaks : s.Breaks t := (eq_overflow_iff h).mp rfl
  have hmoves := (next_moves t s).2
  rw [h] at hmoves
  rcases hmoves with ⟨hnone, -⟩ | ⟨⟨e, he⟩, -⟩ | ⟨-, hcursor⟩ | ⟨outcome, hitem, hcursor⟩
  · exact absurd hnone (by simp)
  · obtain ⟨N, hN, -⟩ := hbreaks.goes
    exact absurd (hN.symm.trans he) (by simp)
  · exact hcursor
  · rw [← Option.some.inj hitem] at hcursor
    exact absurd hcursor (by simp [stepOver?])

/-! ## §2. Walks come to their end. -/

/-- **How many items a walk can still give**: one for each position up to
its end, and the error alone if the number of records cannot be had. -/
def callsLeft (t : Transport) (s : Search) : Nat :=
  match (s.length t).1 with
  | .ok N => (s.query.cursor.bound N).toNat - s.query.cursor.position.toNat
  | .error _ => 1

theorem snd_nexts_succ (t : Transport) (n : Nat) (s : Search) :
    (s.nexts t (n + 1)).2 = ((s.next t).2.nexts t n).2 := rfl

/-- **A walk whose number of records is known** ends unless a step breaks off. -/
theorem Informed.next_none (h : s.Informed book N) {n : Nat}
    (hn : visitLimit s.query.cursor.stop N ≤ s.query.cursor.position.toNat + n)
    (hgoes : ∀ j < n, ¬(s.nexts t j).2.Breaks t) : ((s.nexts t n).2.next t).1 = none := by
  -- On the number of calls: each leaves a position less, or finds the walk at its end.
  induction n generalizing s with
  | zero =>
      rw [Nat.add_zero] at hn
      have hend : s.query.cursor.isExhausted N = true := by
        rw [Cursor.isExhausted_eq, decide_eq_true hn, Bool.or_true]
      show (s.next t).1 = none
      rw [h.next_over (h.left_eq_zero_iff.mpr hend)]
  | succ n ih =>
      by_cases hleft : s.left N = 0
      · have hover : s.next t = (none, s) := h.next_over hleft
        rw [nexts_of_next_none hover, hover]
      · obtain ⟨item, s', hnext, h', -, hcursor⟩ := h.next_item t hleft
        have hgiven : item ≠ .error .overflow :=
          mt (eq_overflow_iff hnext).mp (hgoes 0 (Nat.succ_pos n))
        specialize hcursor hgiven
        obtain ⟨hrunning, -⟩ := room_of_next hnext
        have hforward := next_goes_on h.step_pos hnext hgiven
        have hstill : s'.query.cursor.halted = false := by
          rw [stepOver?_halted hcursor]
          exact hrunning
        rw [hstill, UInt64.lt_iff_toNat_lt] at hforward
        have hforward := hforward.resolve_left Bool.false_ne_true
        rw [snd_nexts_succ, hnext]
        apply ih h'
        · rw [stepOver?_stop hcursor]
          omega
        · intro j hj
          have hlater := hgoes (j + 1) (Nat.succ_lt_succ hj)
          rwa [snd_nexts_succ, hnext] at hlater

/-- The calls of a walk whose number of records is known. -/
theorem Informed.nexts (h : s.Informed book N) (n : Nat) :
    (s.nexts t n).2.Informed book N ∧ (s.nexts t n).2.query.config = s.query.config := by
  induction n generalizing s with
  | zero => exact ⟨h, rfl⟩
  | succ n ih =>
      by_cases hleft : s.left N = 0
      · rw [nexts_of_next_none (h.next_over hleft)]
        exact ⟨h, rfl⟩
      · obtain ⟨item, s', hnext, h', hconfig, -⟩ := h.next_item t hleft
        rw [snd_nexts_succ, hnext, ← hconfig]
        exact ih h'

/-- What is known once the number of records has been told. -/
theorem informed_of_length (hs : s.cache.Settled) (hstep : 0 < s.query.cursor.step.toNat)
    (hlen : s.length t = (.ok N, s')) :
    ∃ book, s'.Informed book N ∧ s'.query.cursor = s.query.cursor
      ∧ s'.query.config = s.query.config := by
  have hkeeps := persistent_keepsCursor.length t s
  have htotal := total_of_length (t := t) hs (by rw [hlen])
  rw [hlen] at hkeeps htotal
  cases hbook : s.query.matchbook with
  | error cause =>
      rw [length_error hbook] at hlen
      exact absurd (congrArg Prod.fst hlen) (by simp)
  | ok book =>
      have hfinal := (persistent_upholds.length t (s.fixed book)).final book stage_fixed
      rw [← length_fixed hbook, hlen] at hfinal
      exact ⟨book, ⟨hfinal, htotal, by rw [hkeeps.cursor_eq]; exact hstep⟩, hkeeps.cursor_eq,
        hkeeps.config_eq⟩

/-- **Walks come to their end** unless a step breaks off, whether the number
of records is known, is told or cannot be had. -/
theorem next_none_of_callsLeft (hs : s.cache.Settled) (hstep : 0 < s.query.cursor.step.toNat)
    {n : Nat} (hn : s.callsLeft t ≤ n) (hgoes : ∀ j < n, ¬(s.nexts t j).2.Breaks t) :
    ((s.nexts t n).2.next t).1 = none := by
  cases hmax : s.query.cursor.isExhausted maxCount with
  | true =>
      have hover : s.next t = (none, s) := next_over hmax
      rw [nexts_of_next_none hover, hover]
  | false =>
      rcases hlen : s.length t with ⟨answer, s'⟩
      unfold callsLeft at hn
      rw [hlen] at hn
      cases answer with
      | error e =>
          -- The first call breaks the walk off.
          obtain ⟨m, rfl⟩ : ∃ m, n = m + 1 := ⟨n - 1, by simp only at hn; omega⟩
          have hover : (s'.moveCursor Cursor.halt).next t = (none, s'.moveCursor Cursor.halt) :=
            next_over rfl
          rw [snd_nexts_succ, next_of_length_error hlen hmax, nexts_of_next_none hover, hover]
      | ok N =>
          -- The calls are those of the walk that has learned the number already.
          obtain ⟨book, h, hcursor, hconfig⟩ := informed_of_length hs hstep hlen
          have hnext : s.next t = s'.next t := next_unknown hlen h.final h.total hmax
          have hlimit : visitLimit s'.query.cursor.stop N ≤ s'.query.cursor.position.toNat + n := by
            rw [hcursor, ← Cursor.toNat_bound]
            simp only at hn
            omega
          have hsame : ∀ j, ¬(s.nexts t j).2.Breaks t → ¬(s'.nexts t j).2.Breaks t := by
            intro j hj
            cases j with
            | zero =>
                rw [← next_eq_overflow_iff] at hj ⊢
                show ¬(s'.next t).1 = _
                rwa [← hnext]
            | succ j => rwa [← nexts_congr hnext]
          have hend := h.next_none hlimit fun j hj => hsame j (hgoes j hj)
          cases n with
          | zero =>
              show (s.next t).1 = none
              rw [hnext]
              exact hend
          | succ n => rwa [nexts_congr hnext]

/-- **No step breaks off** in a result of fewer than `2^63` records. -/
theorem not_breaks_nexts (hs : s.cache.Settled) (hstep : 0 < s.query.cursor.step.toNat)
    (hN : (s.length t).1 = .ok N) (hsmall : N.toNat < 2 ^ 63) (j : Nat) :
    ¬(s.nexts t j).2.Breaks t := by
  cases j with
  | zero => exact not_breaks_of_lt hN hsmall
  | succ j =>
      cases hmax : s.query.cursor.isExhausted maxCount with
      | true =>
          rw [nexts_of_next_none (next_over hmax)]
          exact not_breaks_of_lt hN hsmall
      | false =>
          have hlen : s.length t = (.ok N, (s.length t).2) := Prod.ext hN rfl
          obtain ⟨book, h, -, -⟩ := informed_of_length hs hstep hlen
          have hlater := (h.nexts (t := t) (j + 1)).1
          rw [nexts_congr (next_unknown hlen h.final h.total hmax)]
          exact not_breaks_of_lt (by rw [length_known hlater.final hlater.total]) hsmall

end Search

/-! ## §3. Walks that are over. -/

/-- **A walk that is over for good**: in every result, or in the one whose
number of records is known. -/
inductive Search.Over (s : Search) : Prop
  | always (h : s.query.cursor.isExhausted maxCount = true)
  | known {book : Matchbook} {N : UInt64} (hfinal : s.query.stage = .final book)
      (htotal : s.cache.total = some N) (h : s.query.cursor.isExhausted N = true)

/-- The query at a place walks no more. -/
def Family.OverAt (place : Nat) (f : Family) : Prop := ∃ s, f.search? place = some s ∧ s.Over

namespace Search

variable {t : Transport} {s s' : Search}

/-- A walk that is over finds nothing, and nothing happens. -/
theorem Over.next_eq (h : s.Over) (t : Transport) : s.next t = (none, s) := by
  cases h with
  | always hmax => exact next_over hmax
  | known hfinal htotal hend =>
      rw [next_known hfinal htotal, if_pos hend]

/-- **A call that finds nothing** leaves a walk that is over. -/
theorem over_of_next_none (hs : s.cache.Settled) (hstep : 0 < s.query.cursor.step.toNat)
    (h : (s.next t).1 = none) : (s.next t).2.Over := by
  cases hmax : s.query.cursor.isExhausted maxCount with
  | true =>
      rw [next_over hmax]
      exact .always hmax
  | false =>
      rcases hlen : s.length t with ⟨answer, s'⟩
      cases answer with
      | error e =>
          rw [next_of_length_error hlen hmax] at h
          exact absurd h (by simp)
      | ok N =>
          obtain ⟨book, hinformed, -⟩ := informed_of_length hs hstep hlen
          rw [next_unknown hlen hinformed.final hinformed.total hmax] at h ⊢
          by_cases hleft : s'.left N = 0
          · rw [hinformed.next_over hleft]
            exact .known hinformed.final hinformed.total (hinformed.left_eq_zero_iff.mp hleft)
          · obtain ⟨item, s'', hitem, -⟩ := hinformed.next_item t hleft
            rw [hitem] at h
            exact absurd h (by simp)

/-- What leaves the cursor alone and loses nothing leaves the walk over. -/
theorem Over.of_kept (h : s.Over) (hcursor : s'.query.cursor = s.query.cursor)
    (hkept : ∀ book, s.query.stage = .final book →
      s'.query.stage = .final book ∧ s.cache.Grows s'.cache) : s'.Over := by
  cases h with
  | always hmax => exact .always (by rw [hcursor]; exact hmax)
  | known hfinal htotal hend =>
      obtain ⟨hfinal', hgrows⟩ := hkept _ hfinal
      exact .known hfinal' (hgrows.total _ htotal) (by rw [hcursor]; exact hend)

/-- **No action other than a rewind** takes up a walk that is over. -/
theorem Over.perform (h : s.Over) (t : Transport) (place : Nat) {a : Action} (ha : a ≠ .rewind) :
    (s.perform t place a).2.1.Over := by
  have hupholds : ∀ book, s.query.stage = .final book →
      (s.perform t place a).2.1.query.stage = .final book
        ∧ s.cache.Grows (s.perform t place a).2.1.cache := by
    intro book hfinal
    have hupholds := perform_upholds hfinal t place a
    exact ⟨hupholds.final book hfinal, hupholds.cache⟩
  refine h.of_kept ?_ hupholds
  by_cases hnext : a = .next
  · subst hnext
    show (s.next t).2.query.cursor = _
    rw [h.next_eq t]
  · exact (keepsCursor_perform t place s hnext ha).cursor_eq

end Search

section Family

variable {t : Transport} {config : Config} {f f' : Family} {place p : Nat} {a : Action}
  {outcome : Outcome} {s : Search}

theorem search?_after_own {copy : Option Query} (hplace : place < f.queries.length) :
    (f.after place s copy).search? place = some s := by
  unfold Family.search? Family.after
  rw [List.getElem?_append_left (by rw [List.length_set]; exact hplace),
    List.getElem?_set_self hplace]
  rfl

theorem search?_after_other {copy : Option Query} {q : Query} (hne : place ≠ p)
    (hq : f.queries[place]? = some q) :
    (f.after p s copy).search? place = some ⟨q, s.cache, s.log⟩ := by
  have hplace : place < f.queries.length := (List.getElem?_eq_some_iff.mp hq).1
  unfold Family.search? Family.after
  rw [List.getElem?_append_left (by rw [List.length_set]; exact hplace),
    List.getElem?_set_ne (Ne.symm hne), hq]
  rfl

/-- **One action** on any query of the family. -/
theorem Family.OverAt.perform (h : f.OverAt place) (hf : f.Coherent config)
    (hperform : f.perform t p a = some (outcome, f')) (ha : (p, a) ≠ (place, .rewind)) :
    f'.OverAt place := by
  obtain ⟨-, hgrows⟩ := hf.perform hperform
  obtain ⟨s, hs, hover⟩ := h
  obtain ⟨q, hq, rfl⟩ := Option.map_eq_some_iff.mp hs
  obtain ⟨q', hq', s', copy, hr, rfl⟩ := perform_cases hperform
  -- An action elsewhere may change the store, which loses nothing.
  by_cases hplace : place = p
  · subst hplace
    obtain rfl := Option.some.inj (hq.symm.trans hq')
    have hafter := hover.perform t f.queries.length fun (h : a = .rewind) => ha (by rw [h])
    rw [hr] at hafter
    exact ⟨s', search?_after_own (List.getElem?_eq_some_iff.mp hq).1, hafter⟩
  · exact ⟨_, search?_after_other hplace hq, hover.of_kept rfl fun _ hb => ⟨hb, hgrows⟩⟩

/-- **A step that is answered with nothing** leaves the walk over. -/
theorem Family.Coherent.overAt_of_none (hf : f.Coherent config)
    (hstep : ∀ q ∈ f.queries, 0 < q.cursor.step.toNat)
    (hperform : f.perform t place .next = some (.record none, f')) : f'.OverAt place := by
  obtain ⟨q, hq, s', copy, hr, rfl⟩ := perform_cases hperform
  obtain ⟨houtcome, hafter⟩ := Prod.mk.inj hr
  have hs' : (Search.next t ⟨q, f.cache, f.log⟩).2 = s' := (Prod.mk.inj hafter).1
  have hnone : (Search.next t ⟨q, f.cache, f.log⟩).1 = none := by
    cases hanswer : (Search.next t ⟨q, f.cache, f.log⟩).1 with
    | none => rfl
    | some item =>
        simp only [hanswer] at houtcome
        cases item <;> exact absurd houtcome (by simp [Outcome.ofNext])
  have hover := Search.over_of_next_none (s := ⟨q, f.cache, f.log⟩) hf.settled_cache
    (hstep q (List.mem_of_getElem? hq)) hnone
  rw [hs'] at hover
  exact ⟨s', search?_after_own (List.getElem?_eq_some_iff.mp hq).1, hover⟩

/-- **A whole run** without a rewind at the place. -/
theorem over_run (t : Transport) (acts : List (Nat × Action)) :
    ∀ f : Family, f.OverAt place → f.Coherent config →
      (∀ act ∈ acts, act ≠ (place, .rewind)) → (f.run t acts).2.OverAt place := by
  induction acts with
  | nil => exact fun f hf _ _ => hf
  | cons act acts ih =>
      intro f hover hf hacts
      obtain ⟨p, a⟩ := act
      have hrest : ∀ act ∈ acts, act ≠ (place, .rewind) :=
        fun act hact => hacts act (List.mem_cons_of_mem _ hact)
      cases hperform : f.perform t p a with
      | none =>
          rw [run_skip hperform]
          exact ih f hover hf hrest
      | some found =>
          obtain ⟨outcome, f'⟩ := found
          rw [run_step hperform]
          exact ih f' (hover.perform hf hperform (hacts _ List.mem_cons_self)) (hf.perform hperform).1
            hrest

end Family

/-! ## §4. Every reachable state. -/

/-- **EVERY STEP GOES ON, OR BREAKS OFF**, in a state that a query or a copy
has come to by any run, over any transport, and for a walk over any other one.
A step that gives an item breaks the walk off or moves on; the program breaks
off, and leaves the cursor where it is, exactly where one of two numbers
overflows.  No other number on the way does.  Unless a step comes upon such a
number, and none does in a result of fewer than `2^63` records, the walk is
over after as many items as positions were left; and once nothing was found,
nothing is found after any run that does not rewind the query, and nothing
happens. -/
theorem next_progress (t t' : Transport) (config : Config) (acts : List (Nat × Action))
    (place : Nat) (s : Search)
    (hs : ((Family.start config).run t acts).2.search? place = some s) :
    (∀ item s', s.next t' = (some item, s') →
      let position := s.query.cursor.position
      let k := s.query.pageSize
      (position / k + 1).toNat = position.toNat / k.toNat + 1
      ∧ (∀ d, ((Slot.locate position k d).rank k).toNat
          = k.toNat * ((Slot.locate position k d).page.toInt.natAbs - 1)
            + (Slot.locate position k d).offset.toNat + 1)
      ∧ (item = .error .overflow ↔ s.Breaks t')
      ∧ (item = .error .overflow → s'.query.cursor = s.query.cursor)
      ∧ (item ≠ .error .overflow →
          s'.query.cursor.halted = true ∨ position < s'.query.cursor.position))
    ∧ (∀ n, s.callsLeft t' ≤ n → (∀ j < n, ¬(s.nexts t' j).2.Breaks t') →
      ((s.nexts t' n).2.next t').1 = none)
    ∧ (∀ N, (s.length t').1 = .ok N → N.toNat < 2 ^ 63 → ∀ j, ¬(s.nexts t' j).2.Breaks t')
    ∧ ∀ f, ((Family.start config).run t acts).2.perform t' place .next = some (.record none, f) →
      ∀ t'' more, (∀ act ∈ more, act ≠ (place, .rewind)) →
        ∃ s', (f.run t'' more).2.search? place = some s' ∧ ∀ t, s'.next t = (none, s') := by
  obtain ⟨hcoherent, -⟩ := coherent_run t acts (coherent_start config)
  obtain ⟨q, hq, rfl⟩ := Option.map_eq_some_iff.mp hs
  have hsettled := hcoherent.settled_cache
  have hstep : 0 < q.cursor.step.toNat := run_step_pos t config acts q (List.mem_of_getElem? hq)
  refine ⟨?_, ?_, ?_, ?_⟩
  · intro item s' hnext position k
    obtain ⟨-, hroom⟩ := Search.room_of_next hnext
    refine ⟨?_, fun d => toNat_rank_locate d q.pageSize_pos hroom, Search.eq_overflow_iff hnext,
      ?_, Search.next_goes_on hstep hnext⟩
    · have hdiv := Nat.div_le_self position.toNat k.toNat
      have hroom : position.toNat + 1 < 2 ^ 64 := hroom
      rw [UInt64.toNat_add, UInt64.toNat_div]
      exact Nat.mod_eq_of_lt (show position.toNat / k.toNat + 1 < 2 ^ 64 by omega)
    · intro hover
      rw [hover] at hnext
      exact Search.next_stays hnext
  · intro n hn hgoes
    exact Search.next_none_of_callsLeft hsettled hstep hn hgoes
  · intro N hN hsmall
    exact Search.not_breaks_nexts hsettled hstep hN hsmall
  · intro f hperform t'' more hmore
    have hover := hcoherent.overAt_of_none (run_step_pos t config acts) hperform
    obtain ⟨s', hs', hover⟩ := over_run t'' more f hover (hcoherent.perform hperform).1 hmore
    exact ⟨s', hs', hover.next_eq⟩

/-- The query of four records over a transport that fails, up to its end. -/
theorem next_progress_ends :
    let s := Sample.counted (Cursor.startingAt 0)
    ((Family.start Sample.pairs).run Sample.firstPage Sample.countThenCopy).2.search? 0 = some s
      ∧ ∀ n, 4 ≤ n → ((s.nexts Sample.firstPage n).2.next Sample.firstPage).1 = none := by
  intro s
  have hs : ((Family.start Sample.pairs).run Sample.firstPage
      Sample.countThenCopy).2.search? 0 = some s := by decide +kernel
  obtain ⟨-, hends, hgoes, -⟩ := next_progress Sample.firstPage Sample.firstPage Sample.pairs
    Sample.countThenCopy 0 s hs
  refine ⟨hs, ?_⟩
  intro n hn
  exact hends n hn fun j _ => hgoes 4 rfl (by decide) j

/-- A first page is handed in, and the query copied for the last positions. -/
def Sample.countThenSkip : List (Nat × Action) :=
  [(0, .insertPage 1 [("1 of 18446744073709551615", .obj [])]),
    (0, .slice (.included 18446744073709551600) .unbounded 1)]

/-- A copy before the last page of the greatest result. -/
def Sample.beyond : Search where
  query := ⟨.standard, .final ⟨none, .ascending, [], [], []⟩,
    Cursor.startingAt 18446744073709551600⟩
  cache := ⟨[(1, [("1 of 18446744073709551615", .obj [])])], some 18446744073709551615⟩
  log := []

/-- **A step that breaks off**: fifteen positions are left, and the page of
the next one cannot be had and ends beyond 64 bits.  The page is requested,
and the cursor stays where it is. -/
theorem next_overflows :
    let s := Sample.beyond
    ((Family.start .standard).run Sample.firstPage Sample.countThenSkip).2.search? 1 = some s
      ∧ s.callsLeft Sample.firstPage = 15
      ∧ 2 ^ 64 ≤ (s.query.cursor.position.toNat / s.query.pageSize.toNat + 1)
        * s.query.pageSize.toNat
      ∧ s.next Sample.firstPage = (some (.error .overflow),
          { s with log := ["http://aflowlib.duke.edu/search/API/?,paging(184467440737095517,100)"] })
      ∧ (s.next Sample.firstPage).2.query.cursor = s.query.cursor := by
  refine ⟨by decide +kernel, by decide +kernel, by decide, by decide +kernel, by decide +kernel⟩

end MaterialSearch
