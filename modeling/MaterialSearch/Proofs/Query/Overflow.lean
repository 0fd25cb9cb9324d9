/-
  MaterialSearch.Proofs.Query.Overflow
  ────────────────────────────────
  **WHERE THE PROGRAM BREAKS OFF.**

  Two numbers of a walk may be more than 64 bits hold: the number of a page
  with its sign, of which the one with no opposite is too much, and the
  place where a page ends that cannot be had and has to be gone over.  A
  step that comes upon either breaks off with the cursor where it was, and
  nothing else that is worked out on the way overflows.  In a result of
  fewer than `2^63` records there is no such step.

  Main definitions:
    * `Search.Breaks` — the next step comes upon such a number

  Main results:
    * `recordAt_eq_overflow_iff` — reading a record
    * `next_eq_overflow_iff`     — a step
    * `not_breaks_of_lt`         — results without such a step
-/
import MaterialSearch.Proofs.Page.Numbering
import MaterialSearch.Proofs.Query.Moves
import MaterialSearch.Proofs.Query.Served

namespace MaterialSearch

open Keyword Numeric

namespace Search

/-! ## §1. Positions below `2^63`. -/

/-- Where a page of a position below `2^63` ends fits a word. -/
theorem pageEnd_fits {position k : UInt64} (h : position.toNat < 2 ^ 63) :
    (position.toNat / k.toNat + 1) * k.toNat < 2 ^ 64 := by
  have hk := k.toNat_lt
  have hdiv : position.toNat / k.toNat ≤ position.toNat := Nat.div_le_self _ _
  have hmul : position.toNat / k.toNat * k.toNat ≤ position.toNat := Nat.div_mul_le_self _ _
  rw [Nat.succ_mul]
  by_cases hle : k.toNat ≤ position.toNat
  · omega
  · rw [Nat.div_eq_of_lt (show position.toNat < k.toNat by omega)]
    omega

theorem exists_pageEnd {position k : UInt64} (h : position.toNat < 2 ^ 63) :
    ∃ boundary, pageEnd? position k = some boundary
      ∧ boundary.toNat = (position.toNat / k.toNat + 1) * k.toNat :=
  ⟨_, pageEnd?_eq_some_iff.mpr (UInt64.toNat_ofNat_of_lt' (pageEnd_fits h)).symm,
    UInt64.toNat_ofNat_of_lt' (pageEnd_fits h)⟩

/-- **A walk below `2^63` goes on** over any item that its positions give. -/
theorem exists_stepOver {k : UInt64} {c : Cursor} {item : Except QueryError Entry}
    (h : c.position.toNat < 2 ^ 63) (hitem : item ≠ .error .overflow) :
    ∃ c', stepOver? k item c = some c' := by
  rw [← Option.ne_none_iff_exists']
  intro hnone
  have hfits := pageEnd_fits (k := k) h
  rcases stepOver?_eq_none_iff.mp hnone with hoverflow | ⟨-, hbeyond⟩
  · exact hitem hoverflow
  · omega

/-! ## §2. Reading a record. -/

section Operations

variable {t : Transport} {s s' : Search} {N position : UInt64}

/-- Storing a page may fail, but it takes no number that could overflow. -/
theorem storePage_ne_overflow (p : Int64) (body : Page) (url : String) (s : Search) :
    (s.storePage p body url).1 ≠ .error .overflow := by
  cases hstore : s.cache.store p body url with
  | error e =>
      rw [storePage_error hstore]
      simp
  | ok cache =>
      rw [storePage_ok hstore]
      simp

theorem fetchPage_ne_overflow (t : Transport) (p : Int64) (s : Search) :
    (s.fetchPage t p).1 ≠ .error .overflow := by
  cases hbook : s.query.matchbook with
  | error cause =>
      rw [fetchPage_error hbook]
      simp
  | ok book =>
      rw [fetchPage_fixed hbook]
      cases hanswer : (s.fixed book).answer t book p with
      | error e =>
          rw [fetchPage_missed stage_fixed hanswer]
          simp
      | ok body =>
          rw [fetchPage_answered stage_fixed hanswer]
          exact storePage_ne_overflow _ _ _ _

theorem length_ne_overflow (t : Transport) (s : Search) : (s.length t).1 ≠ .error .overflow := by
  cases hbook : s.query.matchbook with
  | error cause =>
      rw [length_error hbook]
      simp
  | ok book =>
      rw [length_fixed hbook]
      cases hN : s.cache.total with
      | some N =>
          rw [length_known (s := s.fixed book) stage_fixed hN]
          simp
      | none =>
          have hfetch := fetchPage_ne_overflow t (s.fixed book).query.direction.sign (s.fixed book)
          unfold length
          rw [finalize_final stage_fixed]
          simp only [show (s.fixed book).cache.total = none from hN]
          rcases hf : (s.fixed book).fetchPage t (s.fixed book).query.direction.sign with ⟨done, s'⟩
          rw [hf] at hfetch
          cases done with
          | error e =>
              intro hover
              exact hfetch (by rw [Except.error.inj hover])
          | ok _ => simp

theorem stored_ne_overflow (slot : Slot) (s : Search) : s.stored slot ≠ .error .overflow := by
  unfold stored
  dsimp only
  split <;> simp

/-- **Reading a record** overflows where its slot cannot be worked out. -/
theorem recordAt_eq_overflow_iff :
    (s.recordAt t position).1 = .error .overflow
      ↔ Slot.locate? position s.query.pageSize s.query.direction = none := by
  constructor
  · intro hover
    by_contra hslot
    obtain ⟨slot, hslot⟩ := Option.ne_none_iff_exists'.mp hslot
    unfold recordAt at hover
    rw [hslot] at hover
    dsimp only at hover
    split at hover
    · exact stored_ne_overflow slot s hover
    · have hfetch := fetchPage_ne_overflow t slot.page s
      rcases hf : s.fetchPage t slot.page with ⟨done, s'⟩
      rw [hf] at hover hfetch
      cases done with
      | error e =>
          have hover : Except.error e = Except.error QueryError.overflow := hover
          exact hfetch (by rw [Except.error.inj hover])
      | ok _ => exact stored_ne_overflow slot s' hover
  · intro hslot
    rw [recordAt_unlocated hslot]

/-! ## §3. Steps. -/

/-- **The parts of the operations keep the direction.** -/
theorem persistent_direction : Persistent fun s s' => s'.query.direction = s.query.direction where
  refl := fun _ => rfl
  trans := fun h h' => h'.trans h
  logged := fun _ _ => rfl
  finalize := by
    intro s
    cases hbook : s.query.matchbook with
    | error cause => rw [finalize_error hbook]
    | ok book =>
        rw [finalize_ok hbook, Query.direction_eq hbook]
        rfl
  storePage := by
    intro p body url s
    unfold storePage
    cases s.cache.store p body url <;> rfl

/-- **The next step breaks off**: a position is left, and its page has the
number without an opposite, or ends beyond 64 bits and cannot be had. -/
structure Breaks (t : Transport) (s : Search) : Prop where
  goes : ∃ N, (s.length t).1 = .ok N ∧ s.query.cursor.isExhausted N = false
  overflows :
    (s.query.direction = .descending
        ∧ s.query.cursor.position.toNat / s.query.pageSize.toNat + 1 = 2 ^ 63)
      ∨ (2 ^ 64 ≤ (s.query.cursor.position.toNat / s.query.pageSize.toNat + 1)
            * s.query.pageSize.toNat
          ∧ ∃ e, ((s.length t).2.recordAt t s.query.cursor.position).1 = .error (.fetch e))

/-- A step that has learned the number of records and has a position left. -/
theorem next_of_length_ok (hlen : s.length t = (.ok N, s'))
    (hgoes : s.query.cursor.isExhausted N = false) :
    s.next t = (some ((s'.recordAt t s.query.cursor.position).2.goOn
          (s'.recordAt t s.query.cursor.position).1).1,
        ((s'.recordAt t s.query.cursor.position).2.goOn
          (s'.recordAt t s.query.cursor.position).1).2) := by
  have hmax : ¬s.query.cursor.isExhausted maxCount = true := by
    intro hmax
    rw [Cursor.isExhausted_mono (Cursor.le_maxCount N) hmax] at hgoes
    exact absurd hgoes (by simp)
  unfold next
  rw [if_neg hmax, hlen]
  dsimp only
  rw [cursor_of_length hlen, hgoes]
  rfl

/-- A step that has learned the number of records and has none left. -/
theorem next_of_length_end (hlen : s.length t = (.ok N, s'))
    (hend : s.query.cursor.isExhausted N = true) : (s.next t).1 = none := by
  unfold next
  split
  · rfl
  · rw [hlen]
    dsimp only
    rw [cursor_of_length hlen, hend]
    rfl

/-- A step that breaks off, by what was read. -/
theorem goOn_eq_overflow_iff {outcome : Except QueryError Entry} :
    (s.goOn outcome).1 = .error .overflow
      ↔ stepOver? s.query.pageSize outcome s.query.cursor = none := by
  rcases goOn_cases outcome s with ⟨c, hstep, hgo⟩ | ⟨hstep, hgo⟩
  · rw [hgo, hstep]
    constructor
    · intro hover
      have hover : outcome = .error .overflow := hover
      rw [hover] at hstep
      exact absurd hstep (by simp [stepOver?])
    · intro hnone
      exact absurd hnone (by simp)
  · rw [hgo, hstep]
    exact ⟨fun _ => rfl, fun _ => rfl⟩

/-- A step with a position left breaks off where one of the two numbers
overflows. -/
theorem next_overflow_of_length_ok (hlen : s.length t = (.ok N, s'))
    (hgoes : s.query.cursor.isExhausted N = false) :
    (s.next t).1 = some (.error .overflow)
      ↔ (s.query.direction = .descending
          ∧ s.query.cursor.position.toNat / s.query.pageSize.toNat + 1 = 2 ^ 63)
        ∨ (2 ^ 64 ≤ (s.query.cursor.position.toNat / s.query.pageSize.toNat + 1)
              * s.query.pageSize.toNat
            ∧ ∃ e, (s'.recordAt t s.query.cursor.position).1 = .error (.fetch e)) := by
  have hkeeps := persistent_keepsCursor.length t s
  have hdirection := persistent_direction.length t s
  rw [hlen] at hkeeps hdirection
  have hrecord := hkeeps.trans (persistent_keepsCursor.recordAt t s.query.cursor.position s')
  have hsize' : s'.query.pageSize = s.query.pageSize := congrArg Config.pageSize hkeeps.config_eq
  have hsize : (s'.recordAt t s.query.cursor.position).2.query.pageSize = s.query.pageSize :=
    congrArg Config.pageSize hrecord.config_eq
  -- A position that is left is below the number of records, hence below `2^64 - 1`:
  -- the number of its page is a word, and only its sign can be too much for it.
  have hposition := Cursor.position_lt hgoes
  have hN := N.toNat_lt
  have hdiv := Nat.div_le_self s.query.cursor.position.toNat s.query.pageSize.toNat
  rw [next_of_length_ok hlen hgoes, Option.some.injEq, goOn_eq_overflow_iff,
    stepOver?_eq_none_iff, recordAt_eq_overflow_iff, hsize', hdirection, hsize,
    hrecord.cursor_eq, locate?_eq_none_iff s.query.pageSize_pos (by omega)]
  exact or_congr Iff.rfl And.comm

/-- **A step breaks off exactly where a number overflows.** -/
theorem next_eq_overflow_iff : (s.next t).1 = some (.error .overflow) ↔ s.Breaks t := by
  rcases hlen : s.length t with ⟨answer, s'⟩
  have hlearned := length_ne_overflow t s
  rw [hlen] at hlearned
  constructor
  · intro hover
    cases answer with
    | error e =>
        -- Without the number of records the walk is broken off, by another error.
        cases hmax : s.query.cursor.isExhausted maxCount with
        | true =>
            rw [next_over hmax] at hover
            exact absurd hover (by simp)
        | false =>
            rw [next_of_length_error hlen hmax] at hover
            exact absurd (Option.some.inj hover) fun h => hlearned (by rw [Except.error.inj h])
    | ok N =>
        cases hgoes : s.query.cursor.isExhausted N with
        | true =>
            rw [next_of_length_end hlen hgoes] at hover
            exact absurd hover (by simp)
        | false =>
            have hover := (next_overflow_of_length_ok hlen hgoes).mp hover
            exact ⟨⟨N, by rw [hlen], hgoes⟩, by rw [hlen]; exact hover⟩
  · intro hbreaks
    obtain ⟨N, hN, hgoes⟩ := hbreaks.goes
    have hover := hbreaks.overflows
    rw [hlen] at hN hover
    obtain rfl : answer = .ok N := hN
    exact (next_overflow_of_length_ok hlen hgoes).mpr hover

/-- What a step gives tells whether it broke off. -/
theorem eq_overflow_iff {item : Except QueryError Entry} (hnext : s.next t = (some item, s')) :
    item = .error .overflow ↔ s.Breaks t := by
  rw [← next_eq_overflow_iff, hnext, Option.some.injEq]

/-- **Results of fewer than `2^63` records** have no such step. -/
theorem not_breaks_of_lt (h : (s.length t).1 = .ok N) (hN : N.toNat < 2 ^ 63) : ¬s.Breaks t := by
  intro hbreaks
  obtain ⟨M, hM, hgoes⟩ := hbreaks.goes
  obtain rfl : N = M := Except.ok.inj (h.symm.trans hM)
  have hposition := Cursor.position_lt hgoes
  have hdiv := Nat.div_le_self s.query.cursor.position.toNat s.query.pageSize.toNat
  have hfits := pageEnd_fits (k := s.query.pageSize) (hposition.trans hN)
  rcases hbreaks.overflows with ⟨-, hlast⟩ | ⟨hbeyond, -⟩
  · omega
  · omega

end Operations

end Search

end MaterialSearch
