/-
  MaterialSearch.Proofs.Query.Moves
  ────────────────────────────────
  **WHAT MOVES A CURSOR.**

  Only steps and rewinds move the cursor of a query; every other operation
  leaves it, and the configuration, as they are.  No operation at all
  changes the distance between visited positions, and copies get a distance
  of one at least, so that every cursor of a family goes on.

  Main definitions:
    * `Search.KeepsCursor` — configuration and cursor are left as they are

  Main results:
    * `persistent_keepsCursor`, `keepsCursor_get`, `keepsCursor_perform`
      — the operations that do so
    * `next_moves`      — what a step does to the cursor
    * `lt_stepOver?`, `stepOver?_eq_none_iff` — whether it goes on
    * `run_step_pos`    — every cursor of a run goes on
-/
import MaterialSearch.Proofs.Query.Finalized
import MaterialSearch.Proofs.Query.Persistence
import MaterialSearch.Proofs.Query.Runs

namespace MaterialSearch

open Numeric

/-! ## §1. Operations that leave the cursor alone. -/

/-- **Configuration and cursor are left as they are.** -/
structure Search.KeepsCursor (s s' : Search) : Prop where
  config_eq : s'.query.config = s.query.config
  cursor_eq : s'.query.cursor = s.query.cursor

namespace Search

variable {t : Transport} {s s' s'' : Search}

theorem KeepsCursor.refl (s : Search) : s.KeepsCursor s := ⟨rfl, rfl⟩

theorem KeepsCursor.trans (h : s.KeepsCursor s') (h' : s'.KeepsCursor s'') :
    s.KeepsCursor s'' :=
  ⟨h'.config_eq.trans h.config_eq, h'.cursor_eq.trans h.cursor_eq⟩

theorem keepsCursor_edit (change : Edit) (s : Search) : s.KeepsCursor (s.edit change).2 := by
  unfold edit
  cases s.query.stage <;> exact ⟨rfl, rfl⟩

/-- **The parts of the operations leave the cursor alone**, and so do the
operations that are put together from them. -/
theorem persistent_keepsCursor : Persistent KeepsCursor where
  refl := KeepsCursor.refl
  trans := KeepsCursor.trans
  finalize := by
    intro s
    unfold finalize
    cases s.query.matchbook <;> exact ⟨rfl, rfl⟩
  logged := fun _ _ => ⟨rfl, rfl⟩
  storePage := by
    intro p body url s
    unfold storePage
    cases s.cache.store p body url <;> exact ⟨rfl, rfl⟩

/-- Learning the number of records leaves the cursor alone. -/
theorem cursor_of_length {answer : Except QueryError UInt64} (h : s.length t = (answer, s')) :
    s'.query.cursor = s.query.cursor := by
  have hkeeps := persistent_keepsCursor.length t s
  rw [h] at hkeeps
  exact hkeeps.cursor_eq

/-- An index is read by a copy, whatever becomes of it. -/
theorem keepsCursor_get (t : Transport) (index : UInt64) (s : Search) :
    s.KeepsCursor (s.get t index).2 := by
  cases hbook : s.query.matchbook with
  | error cause =>
      rw [get_error hbook]
      exact .refl s
  | ok book =>
      rw [get_ok hbook]
      exact ⟨rfl, rfl⟩

/-- **Every action but a step and a rewind** leaves the cursor alone. -/
theorem keepsCursor_perform (t : Transport) (place : Nat) {a : Action} (s : Search)
    (hnext : a ≠ .next) (hrewind : a ≠ .rewind) : s.KeepsCursor (s.perform t place a).2.1 := by
  cases a with
  | edit change => exact keepsCursor_edit change s
  | finalize => exact persistent_keepsCursor.finalize s
  | pageUrl p => exact persistent_keepsCursor.pageUrl p s
  | fetchPage p => exact persistent_keepsCursor.fetchPage t p s
  | insertPage p body => exact persistent_keepsCursor.insertPage p body s
  | length => exact persistent_keepsCursor.length t s
  | isEmpty => exact persistent_keepsCursor.isEmpty t s
  | next => exact absurd rfl hnext
  | get index => exact keepsCursor_get t index s
  | slice lower upper step => exact persistent_keepsCursor.fork _ s
  | rewind => exact absurd rfl hrewind

/-! ## §2. Steps. -/

/-- **Where a page ends**, as long as that fits in 64 bits. -/
theorem pageEnd?_eq_some_iff {position k boundary : UInt64} :
    pageEnd? position k = some boundary
      ↔ (position.toNat / k.toNat + 1) * k.toNat = boundary.toNat := by
  have hword := boundary.toNat_lt
  have hle : 0 < k.toNat →
      position.toNat / k.toNat + 1 ≤ (position.toNat / k.toNat + 1) * k.toNat :=
    fun hk => Nat.le_mul_of_pos_right _ hk
  unfold pageEnd?
  rw [Option.bind_eq_some_iff]
  constructor
  · rintro ⟨n, hn, hend⟩
    rw [addChecked?_eq_some_iff, UInt64.toNat_div] at hn
    rw [mulChecked?_eq_some_iff, ← hn] at hend
    exact hend
  · intro hend
    -- The number of the page is a word since the page ends no earlier.
    have hn : position.toNat / k.toNat + 1 < 2 ^ 64 := by
      by_cases hk : k.toNat = 0
      · rw [hk, Nat.div_zero]
        decide
      · have := hle (Nat.pos_of_ne_zero hk)
        omega
    refine ⟨UInt64.ofNat (position.toNat / k.toNat + 1), ?_, ?_⟩
    · rw [addChecked?_eq_some_iff, UInt64.toNat_div, UInt64.toNat_ofNat_of_lt' hn]
      rfl
    · rw [mulChecked?_eq_some_iff, UInt64.toNat_ofNat_of_lt' hn]
      exact hend

/-- A page that ends beyond 64 bits has no end that could be gone to. -/
theorem pageEnd?_eq_none_iff {position k : UInt64} :
    pageEnd? position k = none ↔ 2 ^ 64 ≤ (position.toNat / k.toNat + 1) * k.toNat := by
  constructor
  · intro hnone
    by_contra hlt
    have hend : pageEnd? position k = some (UInt64.ofNat ((position.toNat / k.toNat + 1) * k.toNat)) :=
      pageEnd?_eq_some_iff.mpr (UInt64.toNat_ofNat_of_lt' (Nat.lt_of_not_le hlt)).symm
    rw [hnone] at hend
    exact absurd hend (by simp)
  · intro hbeyond
    rw [Option.eq_none_iff_forall_ne_some]
    intro boundary hend
    have hword := boundary.toNat_lt
    rw [pageEnd?_eq_some_iff] at hend
    omega

/-- **What a step does to the cursor**: nothing at the end of the walk, a
halt without the number of records, nothing where the program breaks off,
and otherwise it goes one step on, or behind a page that cannot be had. -/
theorem next_moves (t : Transport) (s : Search) :
    (s.next t).2.query.config = s.query.config
      ∧ (((s.next t).1 = none ∧ (s.next t).2.query.cursor = s.query.cursor)
        ∨ ((∃ e, (s.length t).1 = .error e) ∧ (s.next t).2.query.cursor = s.query.cursor.halt)
        ∨ ((s.next t).1 = some (.error .overflow) ∧ (s.next t).2.query.cursor = s.query.cursor)
        ∨ ∃ outcome, (s.next t).1 = some outcome
            ∧ stepOver? s.query.pageSize outcome s.query.cursor
              = some (s.next t).2.query.cursor) := by
  unfold next
  split
  · exact ⟨rfl, .inl ⟨rfl, rfl⟩⟩
  · have hlen := persistent_keepsCursor.length t s
    rcases hl : s.length t with ⟨total, s'⟩
    rw [hl] at hlen
    cases total with
    | error e =>
        exact ⟨hlen.config_eq, .inr (.inl ⟨⟨e, rfl⟩, congrArg Cursor.halt hlen.cursor_eq⟩)⟩
    | ok total =>
        dsimp only
        split
        · exact ⟨hlen.config_eq, .inl ⟨rfl, hlen.cursor_eq⟩⟩
        · have hrecord := hlen.trans
            (persistent_keepsCursor.recordAt t s'.query.cursor.position s')
          rcases hr : s'.recordAt t s'.query.cursor.position with ⟨outcome, s''⟩
          rw [hr] at hrecord
          have hsize : s''.query.pageSize = s.query.pageSize :=
            congrArg Config.pageSize hrecord.config_eq
          have hcursor : s''.query.cursor = s.query.cursor := hrecord.cursor_eq
          rcases goOn_cases outcome s'' with ⟨c, hstep, hgo⟩ | ⟨-, hgo⟩
          · rw [hsize, hcursor] at hstep
            dsimp only
            rw [hgo]
            exact ⟨hrecord.config_eq, .inr (.inr (.inr ⟨outcome, rfl, hstep⟩))⟩
          · dsimp only
            rw [hgo]
            exact ⟨hrecord.config_eq, .inr (.inr (.inl ⟨rfl, hcursor⟩))⟩

section StepOver

variable {k : UInt64} {outcome : Except QueryError Entry} {c c' : Cursor}

/-- Stepping over changes the position alone. -/
theorem stepOver?_eq (h : stepOver? k outcome c = some c') :
    c' = { c with position := c'.position } := by
  unfold stepOver? at h
  split at h
  · obtain ⟨boundary, -, rfl⟩ := Option.map_eq_some_iff.mp h
    unfold Cursor.skipTo
    split <;> rfl
  · exact absurd h (by simp)
  · obtain rfl := Option.some.inj h
    rfl

theorem stepOver?_step (h : stepOver? k outcome c = some c') : c'.step = c.step := by
  rw [stepOver?_eq h]

theorem stepOver?_stop (h : stepOver? k outcome c = some c') : c'.stop = c.stop := by
  rw [stepOver?_eq h]

theorem stepOver?_halted (h : stepOver? k outcome c = some c') : c'.halted = c.halted := by
  rw [stepOver?_eq h]

/-- **Stepping over goes on.** -/
theorem lt_stepOver? (hstep : 0 < c.step.toNat) (hk : 0 < k.toNat)
    (hroom : c.position.toNat + 1 < 2 ^ 64) (h : stepOver? k outcome c = some c') :
    c.position < c'.position := by
  rw [UInt64.lt_iff_toNat_lt]
  unfold stepOver? at h
  split at h
  · obtain ⟨boundary, hend, rfl⟩ := Option.map_eq_some_iff.mp h
    rw [pageEnd?_eq_some_iff] at hend
    have hbehind : c.position.toNat < boundary.toNat := by
      rw [← hend, ← Nat.div_lt_iff_lt_mul hk]
      exact Nat.lt_succ_self _
    have hsteps : c.step.toNat
        ≤ (boundary.toNat - c.position.toNat + c.step.toNat - 1) / c.step.toNat
          * c.step.toNat := by
      apply Nat.le_mul_of_pos_left
      exact Nat.div_pos (by omega) hstep
    rw [Cursor.toNat_skipTo hstep hbehind]
    omega
  · exact absurd h (by simp)
  · obtain rfl := Option.some.inj h
    show _ < (addCapped c.position c.step).toNat
    rw [toNat_addCapped]
    omega

/-- **Where the cursor cannot go on**: over an overflow, and over a page that
cannot be had and ends beyond 64 bits. -/
theorem stepOver?_eq_none_iff :
    stepOver? k outcome c = none
      ↔ outcome = .error .overflow
        ∨ ((∃ e, outcome = .error (.fetch e))
          ∧ 2 ^ 64 ≤ (c.position.toNat / k.toNat + 1) * k.toNat) := by
  unfold stepOver?
  split
  · rw [Option.map_eq_none_iff, pageEnd?_eq_none_iff]
    simp
  · simp
  · next hmissed hoverflow =>
    constructor
    · intro hnone
      exact absurd hnone (by simp)
    · intro hbreaks
      rcases hbreaks with hover | ⟨⟨e, he⟩, -⟩
      · exact absurd hover hoverflow
      · exact absurd he (hmissed e)

end StepOver

/-! ## §3. Every cursor goes on. -/

theorem next_step (t : Transport) (s : Search) :
    (s.next t).2.query.cursor.step = s.query.cursor.step := by
  rcases (next_moves t s).2 with ⟨-, hc⟩ | ⟨-, hc⟩ | ⟨-, hc⟩ | ⟨outcome, -, hc⟩
  · rw [hc]
  · rw [hc]
    rfl
  · rw [hc]
  · exact stepOver?_step hc

/-- A step of zero counts as one. -/
theorem between_step_pos (start : UInt64) (stop : Option UInt64) (step : UInt64) :
    0 < (Cursor.between start stop step).step.toNat := by
  rw [Cursor.toNat_step_between]
  omega

/-- **No action changes the distance between visited positions**, and that
of a copy is not zero. -/
theorem perform_step (t : Transport) (place : Nat) (a : Action) (s : Search) :
    (s.perform t place a).2.1.query.cursor.step = s.query.cursor.step
      ∧ ∀ q ∈ (s.perform t place a).2.2, 0 < q.cursor.step.toNat := by
  constructor
  · by_cases hnext : a = .next
    · subst hnext
      exact next_step t s
    · by_cases hrewind : a = .rewind
      · subst hrewind
        rfl
      · exact congrArg Cursor.step (keepsCursor_perform t place s hnext hrewind).cursor_eq
  · intro q hq
    cases a with
    | slice lower upper step =>
        cases hbook : s.query.matchbook with
        | error cause =>
            have hcopy : s.slice lower upper step = _ := fork_error hbook _
            simp only [perform, hcopy, Except.toOption, Option.mem_def, reduceCtorEq] at hq
        | ok book =>
            have hcopy : s.slice lower upper step = _ := fork_ok hbook _
            simp only [perform, hcopy, Except.toOption, Option.mem_def, Option.some.injEq] at hq
            rw [← hq]
            exact between_step_pos _ _ _
    | _ =>
        -- Nothing else makes a copy.
        exact absurd hq (by simp [perform])

end Search

/-- **Every cursor of a run goes on.** -/
theorem run_step_pos (t : Transport) (config : Config) (acts : List (Nat × Action)) :
    ∀ q ∈ ((Family.start config).run t acts).2.queries, 0 < q.cursor.step.toNat := by
  apply run_forall
  · intro q hq
    rw [List.mem_singleton.mp hq]
    exact Search.between_step_pos 0 none 1
  · intro s place a hs
    obtain ⟨hstep, hcopy⟩ := Search.perform_step t place a s
    exact ⟨hstep ▸ hs, hcopy⟩

end MaterialSearch
