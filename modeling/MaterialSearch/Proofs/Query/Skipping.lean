/-
  MaterialSearch.Proofs.Query.Skipping
  ────────────────────────────────
  **A SKIP IS A ROW OF STEPS.**

  A skip goes on to a boundary by one product and one sum, and both stop at
  the greatest word.  Single steps stop there one by one.  The two ends are
  the same for all positions, steps and boundaries: a boundary is a word
  itself, so a position that stopped at the greatest word is at the boundary
  or past it, and none of the steps before was stopped.

  Main definitions:
    * `Cursor.Reached`    — the cursors that can come about
    * `Cursor.StepsTo`    — single steps as long as a boundary is ahead
    * `Cursor.shortfall`  — how many steps a boundary is ahead

  Main results:
    * `le_position_iterate_iff` — when single steps are at the boundary
    * `skipTo_eq_iterate`       — a skip is that many steps
    * `skipTo_advance`          — a step before the boundary is part of the skip
    * `skipTo_eq_stepping`      — **a skip is a row of steps**
-/
import MaterialSearch.Proofs.Query.Visiting

namespace MaterialSearch

open Numeric

namespace Cursor

/-- **The cursors that can come about**: a new cursor, and what becomes of it. -/
inductive Reached : Cursor → Prop
  | between (start : UInt64) (stop : Option UInt64) (step : UInt64) :
      Reached (.between start stop step)
  | startingAt (position : UInt64) : Reached (.startingAt position)
  | advance {c : Cursor} (h : Reached c) : Reached c.advance
  | skipTo {c : Cursor} (h : Reached c) (boundary : UInt64) : Reached (c.skipTo boundary)
  | halt {c : Cursor} (h : Reached c) : Reached c.halt
  | rewind {c : Cursor} (h : Reached c) : Reached c.rewind

/-- **Single steps up to a boundary**: as long as it is ahead of the cursor,
the cursor goes one step on. -/
inductive StepsTo (boundary : UInt64) : Cursor → Cursor → Prop
  /-- The boundary is no longer ahead. -/
  | arrived {c : Cursor} (h : boundary ≤ c.position) : StepsTo boundary c c
  /-- One more step. -/
  | step {c d : Cursor} (h : c.position < boundary) (rest : StepsTo boundary c.advance d) :
      StepsTo boundary c d

/-- The number of steps that a boundary is ahead. -/
def shortfall (c : Cursor) (boundary : UInt64) : Nat :=
  (boundary.toNat - c.position.toNat + c.step.toNat - 1) / c.step.toNat

variable {c d : Cursor} {boundary : UInt64}

/-- **Every step goes on.**  The step is set when a cursor is made, and nothing
changes it. -/
theorem Reached.step_pos (h : c.Reached) : 0 < c.step.toNat := by
  induction h with
  | between start stop step =>
    rw [toNat_step_between]
    omega
  | startingAt position =>
    show 0 < (Cursor.between position none 1).step.toNat
    rw [toNat_step_between]
    decide
  | advance _ ih | halt _ ih | rewind _ ih => exact ih
  | skipTo _ boundary ih => rwa [skipTo_step]

/-! ## §1. How many steps a skip is. -/

/-- **When single steps are at the boundary.**  A position that stopped at the
greatest word is, and so is the sum that it stands for. -/
theorem le_position_iterate_iff (hstep : 0 < c.step.toNat) (n : Nat) :
    boundary ≤ (advance^[n] c).position ↔ c.shortfall boundary ≤ n := by
  have hword := boundary.toNat_lt
  unfold shortfall
  rw [UInt64.le_iff_toNat_le, toNat_position_iterate, Nat.div_le_iff_le_mul_add_pred hstep,
    Nat.mul_comm n]
  omega

/-- The steps before are not. -/
theorem position_iterate_lt (hstep : 0 < c.step.toNat) {n : Nat} (h : n < c.shortfall boundary) :
    (advance^[n] c).position < boundary := by
  rw [← UInt64.not_le, le_position_iterate_iff hstep]
  exact Nat.not_le.mpr h

/-- Nothing is ahead of a cursor that is at the boundary. -/
theorem shortfall_eq_zero_iff (hstep : 0 < c.step.toNat) :
    c.shortfall boundary = 0 ↔ boundary ≤ c.position := by
  rw [← Nat.le_zero, ← le_position_iterate_iff hstep, Function.iterate_zero_apply]

/-- **A step before the boundary is one of the steps ahead.** -/
theorem shortfall_advance (hstep : 0 < c.step.toNat) (h : c.position < boundary) :
    c.shortfall boundary = c.advance.shortfall boundary + 1 := by
  have hahead : c.shortfall boundary ≠ 0 := by
    rw [Ne, shortfall_eq_zero_iff hstep]
    exact UInt64.not_le.mpr h
  -- Both are the first number of steps that is enough, counted from one step apart.
  have hsteps (n : Nat) : c.advance.shortfall boundary ≤ n ↔ c.shortfall boundary ≤ n + 1 := by
    rw [← le_position_iterate_iff hstep, Function.iterate_succ_apply]
    exact (le_position_iterate_iff (c := c.advance) hstep n).symm
  have hmore := (hsteps (c.shortfall boundary - 1)).mpr (by omega)
  have hless := (hsteps _).mp (Nat.le_refl _)
  omega

/-- A skip changes nothing but the position. -/
theorem skipTo_eq (c : Cursor) (boundary : UInt64) :
    c.skipTo boundary = { c with position := (c.skipTo boundary).position } := by
  unfold skipTo
  split <;> rfl

/-- **A skip is as many steps as the boundary is ahead.** -/
theorem skipTo_eq_iterate (hstep : 0 < c.step.toNat) :
    c.skipTo boundary = advance^[c.shortfall boundary] c := by
  by_cases hlt : c.position.toNat < boundary.toNat
  · -- Both stop at the greatest word if the same sum does not fit.
    have hposition : (c.skipTo boundary).position
        = (advance^[c.shortfall boundary] c).position := by
      apply UInt64.toNat_inj.mp
      rw [toNat_skipTo hstep hlt, toNat_position_iterate]
      rfl
    rw [skipTo_eq, iterate_advance_eq, hposition]
  · have hle : boundary.toNat ≤ c.position.toNat := Nat.le_of_not_lt hlt
    rw [skipTo_eq_self hle, (shortfall_eq_zero_iff hstep).mpr (UInt64.le_iff_toNat_le.mpr hle)]
    rfl

/-! ## §2. Single steps up to the boundary. -/

/-- **A step before the boundary is part of the skip.** -/
theorem skipTo_advance (hstep : 0 < c.step.toNat) (h : c.position < boundary) :
    c.advance.skipTo boundary = c.skipTo boundary := by
  rw [skipTo_eq_iterate hstep, skipTo_eq_iterate (c := c.advance) hstep, shortfall_advance hstep h,
    Function.iterate_succ_apply]

/-- Where single steps end, the skip ends. -/
theorem StepsTo.eq_skipTo (h : c.StepsTo boundary d) (hstep : 0 < c.step.toNat) :
    d = c.skipTo boundary := by
  induction h with
  | arrived h => exact (skipTo_eq_self (UInt64.le_iff_toNat_le.mp h)).symm
  | step h _ ih => rw [ih hstep, skipTo_advance hstep h]

/-- **Single steps come to an end**: by induction on the steps that the boundary
is ahead. -/
theorem stepsTo_skipTo (hstep : 0 < c.step.toNat) : c.StepsTo boundary (c.skipTo boundary) := by
  induction hahead : c.shortfall boundary generalizing c with
  | zero =>
    have hle := (shortfall_eq_zero_iff hstep).mp hahead
    rw [skipTo_eq_self (UInt64.le_iff_toNat_le.mp hle)]
    exact .arrived hle
  | succ n ih =>
    have hlt : c.position < boundary := by
      rw [← UInt64.not_le, ← shortfall_eq_zero_iff hstep]
      omega
    have hfewer := shortfall_advance hstep hlt
    rw [← skipTo_advance hstep hlt]
    exact .step hlt (ih (c := c.advance) hstep (by omega))

end Cursor

/-- **A SKIP IS A ROW OF STEPS**, for every cursor that can come about and every
boundary.

  * Single steps, as long as the boundary is ahead, come to an end, and the
    skip leaves the very cursor that they leave.
  * This cursor is some number of steps on.  After as many steps or more the
    cursor is at the boundary or past it, after fewer it is not.
  * A cursor that is at the boundary or past it stays as it is. -/
theorem skipTo_eq_stepping {c : Cursor} (h : c.Reached) (boundary : UInt64) :
    (∀ d, c.StepsTo boundary d ↔ d = c.skipTo boundary)
    ∧ (∃ n, c.skipTo boundary = Cursor.advance^[n] c
      ∧ boundary ≤ (Cursor.advance^[n] c).position
      ∧ ∀ m < n, (Cursor.advance^[m] c).position < boundary)
    ∧ (boundary ≤ c.position → c.skipTo boundary = c) := by
  have hstep := h.step_pos
  refine ⟨fun d => ⟨fun hd => hd.eq_skipTo hstep, ?_⟩, ⟨c.shortfall boundary, ?_, ?_, ?_⟩, ?_⟩
  · rintro rfl
    exact Cursor.stepsTo_skipTo hstep
  · exact Cursor.skipTo_eq_iterate hstep
  · exact (Cursor.le_position_iterate_iff hstep _).mpr (Nat.le_refl _)
  · intro m hm
    exact Cursor.position_iterate_lt hstep hm
  · intro hle
    exact Cursor.skipTo_eq_self (UInt64.le_iff_toNat_le.mp hle)

/-- A cursor that was broken off, with steps of more than half of all words. -/
def Sample.longSteps : Cursor := (Cursor.between 7 none 9223372036854775813).halt

/-- The first long step does not reach the greatest word, and the second stops
there.  The skip stops twice, at its product and at its sum, and is two steps. -/
theorem skipTo_eq_stepping_saturated :
    Sample.longSteps.Reached
    ∧ Sample.longSteps.StepsTo 18446744073709551615 (Sample.longSteps.skipTo 18446744073709551615)
    ∧ Sample.longSteps.skipTo 18446744073709551615 = Cursor.advance^[2] Sample.longSteps
    ∧ 5 ≤ Sample.longSteps.position ∧ Sample.longSteps.skipTo 5 = Sample.longSteps := by
  have hreached : Sample.longSteps.Reached := .halt (.between 7 none 9223372036854775813)
  have hahead : (5 : UInt64) ≤ Sample.longSteps.position := by decide
  obtain ⟨hsteps, ⟨n, hskip, hthere, hbefore⟩, -⟩ :=
    skipTo_eq_stepping hreached 18446744073709551615
  obtain ⟨-, -, hstays⟩ := skipTo_eq_stepping hreached 5
  -- One step is too few, and two are enough.
  have hn : n = 2 := by
    match n with
    | 0 => exact absurd hthere (by decide)
    | 1 => exact absurd hthere (by decide)
    | 2 => rfl
    | n + 3 => exact absurd (hbefore 2 (by omega)) (by decide)
  exact ⟨hreached, (hsteps _).mpr rfl, hn ▸ hskip, hahead, hstays hahead⟩

end MaterialSearch
